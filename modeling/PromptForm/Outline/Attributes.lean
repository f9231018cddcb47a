import PromptForm.Failure
import PromptForm.Field.Kind
import PromptForm.Number.Numeral
import PromptForm.Text.Search

/-! # Attributes in parentheses

A line of an outline may end in attributes in parentheses, such as `(dropdown, required: S, M, L)`.
What stands before the first colon names the kind and says whether an answer is required; what
stands after it lists options.
-/

namespace PromptForm.Outline

/-- What the attributes of a line say. -/
structure Attributes where
  kind : Option Kind
  required : Bool
  options : List String
  low : Option Int
  high : Option Int
  yesNo : Bool
  deriving DecidableEq, Repr

def Attributes.none : Attributes := ⟨.none, false, [], .none, .none, false⟩

/-- A character that is dropped from the ends of an option. -/
def isOptionPadding (c : Char) : Bool :=
  c == ' ' || c == '.' || c == ';' || c == '"' || c == '\''

/-- The options of a list, separated by commas, or by slashes if there is no comma. -/
def splitOptions (cs : List Char) : List String :=
  let parts :=
    match Text.splitOn ',' cs with
    | [part] => Text.splitOn '/' part
    | parts => parts
  let texts := parts.map fun part => Text.stripWhere isOptionPadding (Text.trim part)
  (texts.filter (!·.isEmpty)).map String.ofList

/-- The words that name a kind. The first row with a word that occurs wins, so longer phrases come
first. -/
def kindWords : List (List String × Kind) := [
  (["consent"], .consentCheckbox),
  (["long text", "paragraph", "textarea", "multi-line", "multiline"], .textarea),
  (["multiple choice", "single choice", "radio"], .multipleChoice),
  (["checkboxes", "checkbox", "multi-select", "select all"], .checkboxes),
  (["dropdown", "select"], .dropdown),
  (["nps", "net promoter"], .nps),
  (["likert"], .likert),
  (["rating", "stars"], .rating),
  (["scale"], .linearScale),
  (["file", "upload", "attachment"], .fileUpload),
  (["signature"], .signature),
  (["email"], .email),
  (["phone"], .phone),
  (["date"], .date),
  (["number", "numeric"], .number),
  (["url", "website", "link"], .url),
  (["short text", "text"], .text)]

def kindNamed? (lowered : List Char) : Option Kind :=
  (kindWords.find? fun row => row.1.any fun word => Text.hasPhraseStart word.toList lowered).map
    (·.2)

/-- Does a lowercased text offer `yes/no`? -/
def offersYesNo (lowered : List Char) : Bool :=
  (Text.firstMatch (fun before rest => do
    guard (Text.atBoundary before rest)
    let rest ← Text.dropPrefix? "yes".toList rest
    let rest ← Text.dropPrefix? ['/'] (Text.trimStart rest)
    let rest ← Text.dropPrefix? "no".toList (Text.trimStart rest)
    guard (!Text.startsWithWord rest)) .none lowered).isSome

/-- The digits of both ends of the first range, such as `1-5` or `0 to 10`. -/
def rangeDigits? (cs : List Char) : Option (List Char × List Char) :=
  Text.firstMatch (fun _ rest =>
    let low := rest.takeWhile Text.isDigit
    let middle := Text.trimStart (rest.dropWhile Text.isDigit)
    let after := Text.dropPrefix? ['-'] middle <|> Text.dropPrefix? "to".toList middle <|>
      Text.dropPrefix? ['–'] middle
    let high := ((after.map Text.trimStart).getD []).takeWhile Text.isDigit
    if low.isEmpty || high.isEmpty then .none else some (low, high)) .none cs

def readNumber (digits : List Char) : Except Failure Int :=
  match Numeral.readDigits digits with
  | .ok n => .ok n
  | .error e => .error (Failure.ofNumeral digits e)

def range (cs : List Char) : Except Failure (Option Int × Option Int) :=
  match rangeDigits? cs with
  | .none => .ok (.none, .none)
  | some (low, high) => do
    let low ← readNumber low
    let high ← readNumber high
    return (some low, some high)

def Attributes.parse (cs : List Char) : Except Failure Attributes := do
  let head := cs.takeWhile (· != ':')
  let lowered := Text.lower head
  let yesNo := offersYesNo lowered
  let kind := if yesNo then some .multipleChoice else kindNamed? lowered
  let (low, high) ← range cs
  let options :=
    match cs.dropWhile (· != ':') with
    | [] => []
    | _ :: tail => splitOptions tail
  return {
    kind := if kind.isNone && !options.isEmpty then some .multipleChoice else kind
    required := Text.hasPhrase "required".toList lowered
    options := if yesNo && options.isEmpty then ["Yes", "No"] else options
    low := low
    high := high
    yesNo := yesNo }

end PromptForm.Outline
