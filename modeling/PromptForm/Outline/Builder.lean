import PromptForm.Outline.Line

/-! # Building an outline

Sections are filled line by line. Lines before the first field of a section describe it. A field
that begins with `If yes` depends on the last question whose answer was picked from options, and
checkboxes with an option `Other` are followed by a field that asks to specify.
-/

namespace PromptForm.Outline

/-- A section under way. -/
structure Draft where
  title : String
  description : List String
  fields : List Field
  deriving Repr

/-- The sections so far. -/
structure Builder where
  /-- The sections before the last one, in order. -/
  earlier : List Draft
  /-- The last section. -/
  current : Option Draft
  /-- The last field whose answer is picked from options. -/
  lastChoice : Option Field
  deriving Repr

namespace Builder

def empty : Builder := ⟨[], none, none⟩

def sections (b : Builder) : List Draft := b.earlier ++ b.current.toList

def openSection (b : Builder) (title : String) : Builder :=
  { b with earlier := b.sections, current := some ⟨title, [], []⟩ }

/-- Does a text begin with a lowercase word, regardless of case? -/
def beginsWith (word s : String) : Bool := word.toList.isPrefixOf (lowered s).toList

def optionText : Json → String
  | .object entries => trimmed ((Entries.get? entries "label").getD .null).display
  | v => v.usableText

/-- The first option that begins with `Other`. -/
def otherOption? (f : Field) : Option String :=
  (f.options.map optionText).find? (beginsWith "other")

/-- The expression that holds when a field is answered with a text. -/
def answered (label answer : String) : String := label ++ " = " ++ answer

/-- A field that depends on the last choice if it says so. -/
def dependent (b : Builder) (f : Field) : Field :=
  match b.lastChoice with
  | some choice =>
    if beginsWith "if yes" f.label && f.showIf.all String.isEmpty then
      { f with showIf := some (answered choice.label "Yes"), given := f.given ++ [.showIf] }
    else f
  | none => f

/-- The field that asks to specify another option. -/
def specifyField (f : Field) (other : String) : Field :=
  let stem := onText (Text.dropEndWhile fun c => c == '?' || c == ':') f.label
  { Field.plain .text (stem ++ ": please specify") with
    placeholder := some "Please specify"
    showIf := some (answered f.label other)
    given := [.type, .label, .placeholder, .showIf] }

/-- The fields that a field of a line stands for: itself, and what asks to specify. -/
def withFollowUp (f : Field) : List Field :=
  if f.kind? = some .checkboxes then f :: ((otherOption? f).map (specifyField f)).toList else [f]

def addLine (b : Builder) (cs : List Char) : Except Failure Builder := do
  match b.current with
  | none => throw .noSection
  | some draft =>
    match ← fieldOfLine cs with
    | some f =>
      let f := b.dependent f
      return { b with
        current := some { draft with fields := draft.fields ++ withFollowUp f }
        lastChoice := if f.isChoice then some f else b.lastChoice }
    | none =>
      if draft.fields.isEmpty then
        let line := String.ofList (Text.trim cs)
        return { b with current := some { draft with description := draft.description ++ [line] } }
      else return b

end Builder

end PromptForm.Outline
