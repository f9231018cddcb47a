import PromptForm.Failure
import PromptForm.Schema.Member
import PromptForm.Text.Blank

/-! # Options and changes of hosted forms

What a caller may ask for when a form is made from a prompt, and what may be changed about a hosted
form.
-/

namespace PromptForm

/-- What a caller asks for when a form is made. -/
structure FormOptions where
  title : Option String
  includeCaptcha : Bool
  redirectUrl : Option String
  confirmationMessage : Option String
  deriving DecidableEq, Repr

namespace FormOptions

def none : FormOptions := ⟨.none, false, .none, .none⟩

/-- A value, where a blank text counts as null. -/
def blankToNull : Json → Json
  | .text s => if isBlankText s then .null else .text s
  | v => v

/-- Read options. Entries that are no options do not count. -/
def ofEntries (entries : Entries) : Checked FormOptions :=
  let entries := entries.map fun entry => (entry.1, blankToNull entry.2)
  pure FormOptions.mk
    <*> Entries.maybe entries (.plain "title") Check.text
    <*> Entries.optional entries ⟨"includeCaptcha", "include_captcha"⟩ false Check.flag
    <*> Entries.maybe entries ⟨"redirectUrl", "redirect_url"⟩ Check.text
    <*> Entries.maybe entries ⟨"confirmationMessage", "confirmation_message"⟩ Check.text

def check : Json → Checked FormOptions := Check.object ofEntries

def toJson (o : FormOptions) : Json :=
  .object [("title", .ofText? o.title), ("includeCaptcha", .bool o.includeCaptcha),
    ("redirectUrl", .ofText? o.redirectUrl),
    ("confirmationMessage", .ofText? o.confirmationMessage)]

end FormOptions

/-- Is a form open to answers? -/
inductive FormStatus where
  | draft
  | published
  | closed
  deriving DecidableEq, Repr

namespace FormStatus

def name : FormStatus → String
  | draft => "DRAFT"
  | published => "PUBLISHED"
  | closed => "CLOSED"

/-- Read one of several statuses. -/
def checkOne (statuses : List FormStatus) (v : Json) : Checked FormStatus :=
  match v.text?.bind fun s => statuses.find? (·.name == s) with
  | some status => .ok status
  | none => .refuse .notListed

/-- Read the status of a form that is made. -/
def checkNew : Json → Checked FormStatus := checkOne [draft, published]

def check : Json → Checked FormStatus := checkOne [draft, published, closed]

end FormStatus

/-- What is changed about a hosted form. -/
structure FormChange where
  name : Option String
  status : Option FormStatus
  blocks : Option (List Entries)
  settings : Option Entries
  extras : Entries
  deriving Repr

namespace FormChange

def keys : List MemberKey := [.plain "name", .plain "status", .plain "blocks", .plain "settings"]

/-- Read a change. -/
def ofEntries (entries : Entries) : Checked FormChange :=
  pure FormChange.mk
    <*> Entries.maybe entries (.plain "name") Check.text
    <*> Entries.maybe entries (.plain "status") FormStatus.check
    <*> Entries.maybe entries (.plain "blocks") (Check.list Check.mapping)
    <*> Entries.maybe entries (.plain "settings") Check.mapping
    <*> pure (Entries.rest entries keys)

def check : Json → Checked FormChange := Check.object ofEntries

def toJson (c : FormChange) : Json :=
  let blocks := c.blocks.map fun blocks => Json.array (blocks.map .object)
  .object (Entries.sent
    ([("name", .ofText? c.name), ("status", .ofText? (c.status.map FormStatus.name)),
      ("blocks", blocks.getD .null), ("settings", (c.settings.map Json.object).getD .null)] ++
      c.extras))

def loose (c : FormChange) : List Json :=
  ((c.blocks.getD []).flatten ++ c.settings.getD [] ++ c.extras).map (·.2)

def written (c : FormChange) : Except Failure Json := c.toJson.holding 0 c.loose

end FormChange

end PromptForm
