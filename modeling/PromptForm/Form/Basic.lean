import PromptForm.Field.Basic
import PromptForm.Text.Search

/-! # Forms

A form has a title and sections of fields, and may have settings. Every way of understanding a
prompt gives one. Entries of the objects that are no members are kept as extras.
-/

namespace PromptForm

/-- A section of a form. -/
structure Section where
  title : String
  description : Option String
  fields : List Field
  extras : Entries
  deriving Repr

/-- What a form asks of the service that hosts it. -/
structure Settings where
  confirmationMessage : Option String
  redirectUrl : Option String
  hasProgressBar : Option Bool
  hasPartialSubmissions : Option Bool
  saveForLater : Option Bool
  extras : Entries
  deriving Repr

/-- A form. -/
structure Form where
  title : String
  description : Option String
  sections : List Section
  settings : Option Settings
  extras : Entries
  deriving Repr

namespace Section

def keys : List MemberKey := [.plain "title", .plain "description", .plain "fields"]

/-- The objects among the values of the member `fields`. -/
def fieldObjects (entries : Entries) : List Json :=
  match Entries.get? entries "fields" with
  | some (.array items) => items.filter fun v => v.entries?.isSome
  | _ => []

/-- Read a section. A title that is null or not there is empty, and fields that are no objects are
left out. -/
def check : Json → Checked Section :=
  Check.object fun entries =>
    let title := (Entries.present? entries "title").getD (.text "")
    pure Section.mk
      <*> (Check.text title).under (.key "title")
      <*> Entries.maybe entries (.plain "description") Check.text
      <*> (Checked.items Field.check (fieldObjects entries)).under (.key "fields")
      <*> pure (Entries.rest entries keys)

def toJson (s : Section) : Json :=
  .object (Entries.withoutNulls
    [("title", .text s.title), ("description", .ofText? s.description),
      ("fields", .array (s.fields.map Field.toJson))] ++ Entries.sent s.extras)

def loose (s : Section) : List Json := s.fields.flatMap Field.loose ++ s.extras.map (·.2)

end Section

namespace Settings

def none : Settings := ⟨.none, .none, .none, .none, .none, []⟩

def keys : List MemberKey := [
  ⟨"confirmationMessage", "confirmation_message"⟩, ⟨"redirectUrl", "redirect_url"⟩,
  ⟨"hasProgressBar", "has_progress_bar"⟩, ⟨"hasPartialSubmissions", "has_partial_submissions"⟩,
  ⟨"saveForLater", "save_for_later"⟩]

def check : Json → Checked Settings :=
  Check.object fun entries =>
    pure Settings.mk
      <*> Entries.maybe entries ⟨"confirmationMessage", "confirmation_message"⟩ Check.text
      <*> Entries.maybe entries ⟨"redirectUrl", "redirect_url"⟩ Check.text
      <*> Entries.maybe entries ⟨"hasProgressBar", "has_progress_bar"⟩ Check.flag
      <*> Entries.maybe entries ⟨"hasPartialSubmissions", "has_partial_submissions"⟩ Check.flag
      <*> Entries.maybe entries ⟨"saveForLater", "save_for_later"⟩ Check.flag
      <*> pure (Entries.rest entries keys)

def toJson (s : Settings) : Json :=
  .object (Entries.withoutNulls
    [("confirmationMessage", .ofText? s.confirmationMessage),
      ("redirectUrl", .ofText? s.redirectUrl), ("hasProgressBar", .ofBool? s.hasProgressBar),
      ("hasPartialSubmissions", .ofBool? s.hasPartialSubmissions),
      ("saveForLater", .ofBool? s.saveForLater)] ++ Entries.sent s.extras)

def loose (s : Settings) : List Json := s.extras.map (·.2)

end Settings

namespace Form

def keys : List MemberKey := [
  .plain "title", .plain "description", .plain "sections", .plain "settings"]

def check : Json → Checked Form :=
  Check.object fun entries =>
    pure Form.mk
      <*> Entries.require entries (.plain "title") Check.text
      <*> Entries.maybe entries (.plain "description") Check.text
      <*> Entries.optional entries (.plain "sections") [] (Check.list Section.check)
      <*> Entries.maybe entries (.plain "settings") Settings.check
      <*> pure (Entries.rest entries keys)

def fields (form : Form) : List Field := form.sections.flatMap Section.fields

def fieldCount (form : Form) : Nat := form.fields.length

/-- Does the label of a field have one of the needles in it, regardless of case? -/
def hasFieldLabeled (form : Form) (needles : List String) : Bool :=
  let needles := (needles.filter (!·.isEmpty)).map lowered
  form.fields.any fun f => needles.any fun needle => containsText needle (lowered f.label)

def toJson (form : Form) : Json :=
  .object (Entries.withoutNulls
    [("title", .text form.title), ("description", .ofText? form.description),
      ("sections", .array (form.sections.map Section.toJson)),
      ("settings", (form.settings.map Settings.toJson).getD .null)] ++
      Entries.sent form.extras)

def loose (form : Form) : List Json :=
  form.sections.flatMap Section.loose ++ (form.settings.map Settings.loose).getD [] ++
    form.extras.map (·.2)

def written (form : Form) : Except Failure Json := form.toJson.holding 0 form.loose

end Form

end PromptForm
