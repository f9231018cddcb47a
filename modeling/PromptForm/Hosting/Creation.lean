import PromptForm.Compiler.Basic
import PromptForm.Hosting.Options

/-! # Requests for new forms

A compiled form is hosted under the settings that the form and the caller ask for. The form decides
on the message after a submission, the caller on the page that follows.
-/

namespace PromptForm

/-- What a hosted form is set to, apart from what is the same for all. -/
structure HostSettings where
  hasProgressBar : Bool
  hasPartialSubmissions : Bool
  saveForLater : Bool
  redirect : Option String
  confirmationMessage : String
  deriving DecidableEq, Repr

namespace HostSettings

def saying (message : String) : HostSettings := ⟨true, true, true, none, message⟩

/-- Settings as a JSON object. A form that leads nowhere says so with a null. -/
def toJson (s : HostSettings) : Json :=
  .object [
    ("language", .text "en"), ("isClosed", .bool false),
    ("hasSelfEmailNotifications", .bool true), ("hasRespondentEmailNotifications", .bool false),
    ("hasProgressBar", .bool s.hasProgressBar),
    ("hasPartialSubmissions", .bool s.hasPartialSubmissions), ("pageAutoJump", .bool false),
    ("saveForLater", .bool s.saveForLater), ("redirectOnCompletion", .ofText? s.redirect),
    ("confirmationMessage", .text s.confirmationMessage),
    ("styles", .object [("theme", .text "LIGHT"),
      ("font", .object [("provider", .text "Google"), ("family", .text "Roboto Slab")])])]

def ofCompiled (c : CompiledForm) (options : FormOptions) (confirmation : String) :
    HostSettings where
  hasProgressBar := (c.settings.bind (·.hasProgressBar)).getD true
  hasPartialSubmissions := (c.settings.bind (·.hasPartialSubmissions)).getD true
  saveForLater := (c.settings.bind (·.saveForLater)).getD true
  redirect := options.redirectUrl.bind nonEmpty? <|> c.redirectUrl.bind nonEmpty?
  confirmationMessage := (c.confirmationMessage.bind nonEmpty? <|>
    options.confirmationMessage.bind nonEmpty?).getD confirmation

end HostSettings

/-- A request for a new form. -/
structure FormCreation where
  name : String
  workspaceId : String
  status : FormStatus
  blocks : List Block
  settings : HostSettings
  deriving Repr

namespace FormCreation

/-- A request as a JSON object. Blocks have no place for numbers that are not finite. -/
def toJson (r : FormCreation) : Json :=
  .object [("name", .text r.name), ("workspaceId", .text r.workspaceId),
    ("status", .text r.status.name), ("blocks", .array (r.blocks.map fun b => b.toJson.finite)),
    ("settings", r.settings.toJson)]

/-- A request written down. It keeps the payloads of its blocks as they are. -/
def written (r : FormCreation) : Except Failure Json :=
  r.toJson.holding 0 (r.blocks.map (·.payload.toJson))

/-- A captcha before the closing block, unless there is one already. -/
def withCaptcha (blocks : List Block) : Draw (List Block) := do
  match blocks.getLast? with
  | none => return []
  | some closing =>
    if blocks.any fun b => b.kind = .captcha then return blocks
    else
      let captcha ← Build.single .captcha []
      return blocks.dropLast ++ [captcha, closing]

/-- A request with blocks that can be written down, and with the parts that the caller chooses once
they have been checked. -/
def checked (name : String) (workspaceId status : Json) (blocks : List Block)
    (settings : HostSettings) : Draw FormCreation := Draw.ofExcept do
  let _ ← blocks.mapM Block.written
  Checked.toExcept
    (pure (fun workspaceId status => FormCreation.mk name workspaceId status blocks settings)
      <*> (Check.text workspaceId).under (.key "workspace_id")
      <*> (FormStatus.checkNew status).under (.key "status"))

def ofCompiled (c : CompiledForm) (workspaceId : Json) (options : FormOptions) (status : Json)
    (confirmation : String) : Draw FormCreation := do
  let blocks ← if options.includeCaptcha then withCaptcha c.blocks else pure c.blocks
  checked ((options.title.bind nonEmpty?).getD c.title) workspaceId status blocks
    (.ofCompiled c options confirmation)

end FormCreation

end PromptForm
