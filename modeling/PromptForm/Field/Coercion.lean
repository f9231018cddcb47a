import PromptForm.Field.Attribute
import PromptForm.Json.Display

/-! # Loose values of attributes

Fields come from models and from people who write `"5"` for `5`, `"yes"` for `true` or one option
for a list of options. Before a field is checked, the value of each attribute is brought into the
form that the attribute holds. What cannot be brought into it is left out.
-/

namespace PromptForm

namespace Coercion

/-- The number that a value stands for. A text with a whole number in it stands for that whole
number, even when it is written with a point or an exponent. Truth values are no numbers. -/
def number? : Json → Option Number
  | .null => none
  | .bool _ => none
  | .int n => some (.int n)
  | .double x => some (.double x)
  | v =>
    match Numeral.readDouble? (Text.trim v.display.toList) with
    | none => none
    | some x =>
      match x.isWhole, x.toInt with
      | true, .ok n => some (.int n)
      | _, _ => some (.double x)

def whole? (v : Json) : Except NotFinite (Option Int) :=
  match number? v with
  | none => .ok none
  | some (.int n) => .ok (some n)
  | some (.double x) => x.toInt.map some

/-- The text that a value stands for: scalars are texts, lists and objects are none. -/
def text? : Json → Option String
  | .text s => some s
  | .bool b => some (Json.bool b).display
  | .int n => some (Json.int n).display
  | .double x => some (Json.double x).display
  | _ => none

def affirmed : Json → Bool
  | .bool b => b
  | .null => false
  | v => ["1", "true", "yes", "y", "required"].contains (lowered (trimmed v.display))

def label : Json → String
  | .text s => s
  | .null => ""
  | v => v.display

/-- The list that a value stands for: null is the empty list, any other single value the list
of itself. -/
def list : Json → List Json
  | .array items => items
  | .null => []
  | v => [v]

/-- The non-blank texts of a list of values, trimmed. -/
def texts (items : List Json) : List Json :=
  (items.map fun v => trimmed v.display).filter (!·.isEmpty) |>.map Json.text

/-- Bring the value of the entry `name` into the form that the attribute holds. File types are
trimmed only under their first spelling. A whole number that is not finite is left out; such a
number is reported before. -/
def value (name : String) (v : Json) : Json :=
  match (Attribute.ofName? name).map Attribute.form with
  | none | some .kind | some .flag => v
  | some .label => .text (label v)
  | some .looseFlag => .bool (affirmed v)
  | some .text => Json.ofText? (text? v)
  | some .number => Json.ofNumber? (number? v)
  | some .whole => Json.ofInt? (whole? v |>.toOption |>.join)
  | some .list => .array (list v)
  | some .texts =>
    .array (if name == Attribute.allowedFileTypes.key.key then texts (list v) else list v)

def entries (entries : Entries) : Entries :=
  entries.map fun entry => (entry.1, value entry.1 entry.2)

/-- The names of the attributes that hold whole numbers, in the order in which they are looked
at. -/
def wholeNames : List String := ["maxFiles", "max_files", "level"]

/-- The first whole number of the entries that is not finite. -/
def fault? (entries : Entries) : Option NotFinite :=
  wholeNames.findSome? fun name =>
    match (Entries.get? entries name).map whole? with
    | some (.error e) => some e
    | _ => none

end Coercion

end PromptForm
