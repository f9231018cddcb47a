import PromptForm.Json.Display

/-! # Options to choose from

The options of a question are given as texts, numbers or objects. An object has a label, else a
value; options without usable text are dropped.
-/

namespace PromptForm

/-- An option to choose. -/
structure Choice where
  text : String
  value : String
  isDefault : Bool
  description : Option String
  deriving DecidableEq, Repr

namespace Choice

/-- An option that is its own value. -/
def plain (text : String) : Choice := ⟨text, text, false, none⟩

/-- The option that an object describes. -/
def ofEntries? (entries : Entries) : Option Choice := do
  let value := (Entries.present? entries "value").map fun v => trimmed v.display
  let label := (Entries.present? entries "label").map fun v => trimmed v.display
  let text ← nonEmpty? ((label <|> value).getD "")
  return {
    text := text
    value := (value.bind nonEmpty?).getD text
    isDefault := match Entries.get? entries "default" with
      | some (.bool true) => true
      | _ => false
    description := ((Entries.get? entries "description").getD .null).usableText? }

/-- The option that a value describes, if it has usable text. -/
def ofJson? : Json → Option Choice
  | .object entries => ofEntries? entries
  | .text s => (trimmed? s).map plain
  | .int n => some (plain (Json.int n).display)
  | .double x => some (plain (Json.double x).display)
  | _ => none

def normalize : Json → List Choice
  | .array items => items.filterMap ofJson?
  | _ => []

def toJson (c : Choice) : Json :=
  .object [("text", .text c.text), ("value", .text c.value), ("is_default", .bool c.isDefault),
    ("description", .ofText? c.description)]

end Choice

end PromptForm
