import PromptForm.ContactForm
import PromptForm.Hosting.Account

/-! # The service

Prompts are compiled with or without an account; everything else needs one. A form is made in the
first workspace of the account.
-/

namespace PromptForm.Hosting

/-- What the service is given. -/
structure Service where
  env : Environment
  account : Option Account
  oracle : Option Oracle
  /-- The configuration, unless it comes from the environment. -/
  config : Option Compiler.Config
  /-- When requests come in. -/
  time : String

namespace Service

/-- The account of a key, else of the key in the environment, unless that is blank. -/
def accountOf (env : Environment) (key : Option String) : Except Obstacle (Option Account) :=
  let key := (key.bind nonEmpty? <|> env.get? "TALLY_API_KEY").getD ""
  if isBlankText key then .ok none else (Account.ofKey env key none none).map some

def ofKey (env : Environment) (key : Option String) (oracle : Option Oracle)
    (config : Option Compiler.Config) (time : String) : Except Obstacle Service := do
  return ⟨env, ← accountOf env key, oracle, config, time⟩

def withKey (s : Service) (key : String) : Except Obstacle Service := do
  return { s with account := ← accountOf s.env (some key) }

def isConfigured (s : Service) : Bool := s.account.isSome

def configuration (s : Service) : Compiler.Config :=
  s.config.getD (.ofEnvironment s.env)

def withAccount (s : Service) (f : Account → Session α) : Session α :=
  match s.account with
  | some a => f a
  | none => Session.fail .notConfigured

def preview (s : Service) (prompt : String) : Session CompiledForm := fun world state =>
  let requestId := Compiler.requestIdAt s.time
  let c := Compiler.compile s.configuration s.oracle world.ids state.drawn requestId prompt
  (c.outcome.1.mapError .failure,
    { state with
      drawn := c.outcome.2
      traced := state.traced ++ c.trace s.configuration requestId })

def creationOf (s : Service) (prompt : String) (workspaceId : Json) (options : FormOptions)
    (status : Json) : Session FormCreation := do
  let compiled ← s.preview prompt
  Session.draw
    (FormCreation.ofCompiled compiled workspaceId options status s.configuration.confirmation)

def firstWorkspaceId (s : Service) : Session String := do
  match ← s.withAccount Account.listWorkspaces with
  | [] => Session.fail .noWorkspace
  | .object entries :: _ => return ((Entries.get? entries "id").getD .null).display
  | workspace :: _ => Session.fail (.oddWorkspace workspace.typeName)

def createFromPrompt (s : Service) (prompt : String) (options : FormOptions) (status : Json) :
    Session Json := do
  let workspaceId ← s.firstWorkspaceId
  let creation ← s.creationOf prompt (.text workspaceId) options status
  s.withAccount fun a => a.makeForm creation

/-- Make the form of a prompt under options that have to be read. Options that do not count as
anything ask for nothing. -/
def createFromPromptWith (s : Service) (prompt : String) (options status : Json) :
    Session Json := do
  let options ← Session.ofExcept
    (FormOptions.check (if options.truthy then options else .object [])).toExcept
  s.createFromPrompt prompt options status

def contactCreation (s : Service) (title : Json) (withPhone withCompany : Bool)
    (workspaceId : String) : Draw FormCreation := do
  let blocks ← ContactForm.blocks title withPhone withCompany (some s.configuration.attribution)
  FormCreation.checked (title.text?.getD "") (.text workspaceId) (.text FormStatus.draft.name)
    blocks (.saying ContactForm.confirmation)

def createContactForm (s : Service) (title : Json) (withPhone withCompany : Bool) :
    Session Json := do
  let workspaceId ← s.firstWorkspaceId
  let creation ← Session.draw (s.contactCreation title withPhone withCompany workspaceId)
  s.withAccount fun a => a.makeForm creation

end Service

end PromptForm.Hosting
