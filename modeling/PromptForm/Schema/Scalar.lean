import PromptForm.Number.Loose
import PromptForm.Number.Number
import PromptForm.Schema.Checked
import PromptForm.Text.Case

/-! # Checks of single values

Which values stand for a text, a truth value or a number. A text has to be a text; truth values and
numbers may also be written as text, and whole numbers as floating-point ones.
-/

namespace PromptForm

namespace Check

def text : Json → Checked String
  | .text s => .ok s
  | _ => .refuse .notText

/-- Is the number in the range of signed 64-bit words? -/
def inWordRange (n : Int) : Bool := -9223372036854775808 ≤ n && n ≤ 9223372036854775807

/-- Is the number strictly inside that range? Nothing outside is read from floating point. -/
def insideWordRange (n : Int) : Bool := -9223372036854775808 < n && n < 9223372036854775807

def flagWord? (s : String) : Option Bool :=
  let word := String.ofList (s.toList.map Char.toLower)
  if ["1", "true", "t", "yes", "y", "on"].contains word then some true
  else if ["0", "false", "f", "no", "n", "off"].contains word then some false
  else none

def flagOfInt (n : Int) : Checked Bool :=
  if n == 0 then .ok false else if n == 1 then .ok true else .refuse .unclearFlag

def flag : Json → Checked Bool
  | .bool b => .ok b
  | .text s =>
    match flagWord? s with
    | some b => .ok b
    | none => .refuse .unclearFlag
  | .int n => if inWordRange n then flagOfInt n else .refuse .notFlag
  | .double x =>
    match x.isWhole, x.toInt with
    | true, .ok n => if insideWordRange n then flagOfInt n else .refuse .notFlag
    | _, _ => .refuse .notFlag
  | _ => .refuse .notFlag

def whole : Json → Checked Int
  | .int n => .ok n
  | .bool b => .ok (if b then 1 else 0)
  | .double x =>
    match x.toInt with
    | .error _ => .refuse .notFinite
    | .ok n =>
      if !x.isWhole then .refuse .fractional
      else if insideWordRange n then .ok n
      else .refuse .tooLarge
  | .text s =>
    match Loose.readInt s.toList with
    | .ok n => .ok n
    | .error .malformed => .refuse .unclearWhole
    | .error (.tooLong _) => .refuse .tooLarge
  | _ => .refuse .notWhole

def double : Json → Checked Double
  | .double x => .ok x
  | .int n => .ok (.ofInt n)
  | .bool b => .ok (.ofInt (if b then 1 else 0))
  | .text s =>
    match Loose.readDouble? s.toList with
    | some x => .ok x
    | none => .refuse .unclearNumber
  | _ => .refuse .notNumber

/-- The issues of a value that fits none of several shapes, each under the name of its shape. -/
def under? (name : String) : Checked α → List Issue
  | .bad issues => issues.map (Issue.under (.key name))
  | _ => []

/-- A number. A whole or floating-point number is taken as it is; anything else is read as a whole
number if it can be, else as a floating-point one. -/
def number (v : Json) : Checked Number :=
  match v with
  | .double x => .ok (.double x)
  | v =>
    match whole v, double v with
    | .ok n, _ => .ok (.int n)
    | _, .ok x => .ok (.double x)
    | asWhole, asDouble => .bad (under? "int" asWhole ++ under? "float" asDouble)

/-- A null is nothing; anything else is checked. -/
def nullable (check : Json → Checked α) : Json → Checked (Option α)
  | .null => .ok none
  | v => (check v).map some

/-- A list whose items are checked. -/
def list (check : Json → Checked α) : Json → Checked (List α)
  | .array items => Checked.items check items
  | _ => .refuse .notList

def mapping : Json → Checked Entries
  | .object entries => .ok entries
  | _ => .refuse .notMapping

def any (v : Json) : Checked Json := .ok v

def oneOf (values : List String) : Json → Checked String
  | .text s => if values.contains s then .ok s else .refuse .notListed
  | _ => .refuse .notListed

def nonEmptyText : Json → Checked String
  | .text s => if s.isEmpty then .refuse .tooShort else .ok s
  | _ => .refuse .notText

end Check

end PromptForm
