import PromptForm.Field.Basic
import PromptForm.Lowering.Draw
import PromptForm.Text.Search

/-! # Reading the attributes of raw fields

How blocks take numbers, texts and lists from attributes that may hold any value.
-/

namespace PromptForm

namespace Reading

/-- How many bytes a megabyte has: two to the power of this. -/
def megabyteBits : Nat := 20

/-- How many bytes a megabyte has. -/
def megabyte : Nat := twoPow megabyteBits

def wholeOfText (s : String) : Except Failure Int :=
  match Numeral.readInt s.toList with
  | .ok n => .ok n
  | .error e => .error (Failure.ofNumeral s.toList e)

def whole : Json → Except Failure Int
  | .int n => .ok n
  | .bool b => .ok (if b then 1 else 0)
  | .double x => x.toInt.mapError .notFinite
  | .text s => wholeOfText s
  | _ => .error .unsuitable

/-- A value as a whole number, or nothing if it stands for none. Infinite numbers are refused. -/
def whole? (v : Json) : Except Failure (Option Int) :=
  if v.isNull then .ok none
  else
    match whole v with
    | .ok n => .ok (some n)
    | .error (.notFinite .infinity) => .error (.notFinite .infinity)
    | .error _ => .ok none

/-- A text repeated once for every byte of a megabyte, as a whole number. A run of digits that
long is always too long; of anything else only the beginning is kept. -/
def repeated (s : String) : Failure :=
  let few := (List.replicate 2 s.toList).flatten
  let isRun := few.all fun c => Text.isDigit c || c == '_'
  match isRun, Numeral.dropUnderscores? false few with
  | true, some digits => .tooLong (digits.length / 2 * megabyte)
  | _, _ => .noNumeral (List.replicate Failure.shownLength s.toList).flatten

/-- A size in megabytes as a size in bytes, or nothing for a value that does not count as
anything. -/
def bytes? (v : Json) : Except Failure (Option Int) :=
  if !v.truthy then .ok none
  else
    match v with
    | .int n => .ok (some (n * megabyte))
    | .bool _ => .ok (some megabyte)
    | .double x => ((x.timesPowerOfTwo megabyteBits).toInt.mapError .notFinite).map some
    | .text s => .error (repeated s)
    | _ => .error .unsuitable

/-- The text that a list item stands for: an object has its first member of these names that
counts as something. -/
def itemText? : Json → Option String
  | .object entries =>
    let values := ["label", "name", "text", "value"].filterMap (Entries.get? entries)
    (values.find? Json.truthy).bind Json.usableText?
  | v => v.usableText?

/-- The texts of the items of a list, without those that have none. -/
def texts : Json → List String
  | .array items => items.filterMap itemText?
  | _ => []

def elements : Json → Except Failure (List Json)
  | .array items => .ok items
  | .text s => .ok (s.toList.map fun c => .text (String.singleton c))
  | .object entries => .ok (entries.map fun entry => .text entry.1)
  | _ => .error .unsuitable

/-- A file type in lowercase, without points in front. -/
def fileType (s : String) : String :=
  onText (fun cs => (Text.lower cs).dropWhile (· == '.')) s

/-- The file types among the values of an attribute, which all have to be texts. -/
def fileTypes : List Json → Except Failure (List String)
  | [] => .ok []
  | .text s :: rest => do
    let others ← fileTypes rest
    return if isBlankText s then others else fileType (trimmed s) :: others
  | _ :: _ => .error .noText

/-- The label of a field, or the words of its kind when it has none. -/
def label (f : RawField) : Except Failure Json :=
  if (f.get .label).truthy then .ok (f.get .label)
  else
    match f.get .type with
    | .text s =>
      let words (cs : List Char) := cs.map fun c => if c == '_' then ' ' else c
      .ok (.text (onText (fun cs => Text.titleCase (words cs)) s))
    | _ => .error .noText

def firstText (values : List Json) : String := ((values.find? Json.truthy).getD .null).usableText

def extra (f : RawField) (names : List String) : Json := (f.extra? names).getD .null

/-- A value that counts as something, else a default. -/
def orDefault (v default : Json) : Json := if v.truthy then v else default

/-- A value that is not null, else a default. -/
def unlessNull (v default : Json) : Json := if v.isNull then default else v

end Reading

end PromptForm
