import PromptForm.Compiler.Config
import PromptForm.Definition
import PromptForm.Keyword
import PromptForm.Lowering.Form
import PromptForm.Oracle.Basic
import PromptForm.Outline.Document

/-! # Compiling prompts

A prompt is understood in the first way that gives a form: as a definition in JSON, by the oracle,
as an outline, and at last by its keywords, which always give one. A form of the oracle with too
few fields does not count.
-/

namespace PromptForm

namespace Compiler

/-- The way in which a prompt was understood. -/
inductive Source where
  | structured
  | oracle
  | heuristic
  | keyword
  deriving DecidableEq, Repr

def Source.name : Source → String
  | structured => "structured"
  | oracle => "oracle"
  | heuristic => "heuristic"
  | keyword => "keyword"

end Compiler

open Compiler

/-- A compiled form. -/
structure CompiledForm where
  title : String
  blocks : List Block
  source : Source
  /-- The form, unless the blocks come from keywords. -/
  parsed : Option Form
  confirmationMessage : Option String
  redirectUrl : Option String
  settings : Option Settings
  /-- The conditions that gave no rule. -/
  unresolved : List String
  requestId : String
  deriving Repr

def CompiledForm.toJson (c : CompiledForm) : Json :=
  .object (Entries.withoutNulls [
    ("title", .text c.title), ("source", .text c.source.name),
    ("parsedForm", (c.parsed.map Form.toJson).getD .null),
    ("confirmationMessage", .ofText? c.confirmationMessage),
    ("redirectUrl", .ofText? c.redirectUrl),
    ("settings", (c.settings.map Settings.toJson).getD .null),
    ("unresolvedConditions", .ofTexts c.unresolved), ("requestId", .text c.requestId),
    ("blocks", .array (c.blocks.map Block.toJson))])

def CompiledForm.written (c : CompiledForm) : Except Failure Json := do
  let v ← c.toJson.holding 0 ((c.parsed.map Form.loose).getD [] ++
    (c.settings.map Settings.loose).getD [])
  v.holding 1 (c.blocks.flatMap Block.loose)

namespace Compiler

/-- What happens when a prompt is compiled. -/
structure Compilation where
  /-- The calls of the oracle. -/
  calls : List Oracle.Call
  /-- The stages that were passed, each with what there is to say about it. -/
  stages : List (String × String)
  /-- The outcome, with the number of ids drawn. -/
  outcome : Except Failure CompiledForm × Nat

def ofForm (config : Config) (requestId : String) (source : Source) (form : Form) :
    Draw CompiledForm := do
  let lowered ← form.lower config.attribution
  return {
    title := form.title
    blocks := lowered.blocks
    source := source
    parsed := some form
    confirmationMessage := form.settings.bind (·.confirmationMessage)
    redirectUrl := form.settings.bind (·.redirectUrl)
    settings := form.settings
    unresolved := lowered.unresolved
    requestId := requestId }

def ofKeywords (config : Config) (requestId : String) (prompt : String) : Draw CompiledForm := do
  let title := Title.ofPrompt prompt
  let blocks ← Keyword.blocks prompt title config.attribution
  return {
    title := title
    blocks := blocks
    source := .keyword
    parsed := none
    confirmationMessage := none
    redirectUrl := none
    settings := none
    unresolved := []
    requestId := requestId }

/-- What came of asking an oracle. -/
structure Attempt where
  calls : List Oracle.Call
  /-- What there is to say about it. -/
  note : String
  form : Except Failure (Option Form)

/-- The number of fields of a form, to be said about a stage. -/
def fieldNote (form : Form) : String := "fields=" ++ toString form.fieldCount

/-- Ask an oracle, if there is one to be asked. -/
def attempt (config : Config) (oracle? : Option Oracle) (prompt : String) : Attempt :=
  if config.usesOracle then
    let calls := if oracle?.isSome then [.ofPrompt prompt] else []
    match Oracle.formOfPrompt oracle? prompt with
    | .ok form =>
      if form.hasFields config.oracleMinFields then ⟨calls, fieldNote form, .ok (some form)⟩
      else ⟨calls, "result=low_confidence " ++ fieldNote form, .ok none⟩
    | .error (.fault (.unavailable _)) => ⟨calls, "result=unavailable", .ok none⟩
    | .error (.fault f) =>
      ⟨calls, "result=error error=" ++ onText (Text.abbreviate 160) f.message, .ok none⟩
    | .error (.failure e) => ⟨calls, "", .error e⟩
  else ⟨[], "skipped=disabled", .ok none⟩

def outlineNote (form : Form) : String :=
  "sections=" ++ toString form.sections.length ++ " " ++ fieldNote form

def keywordNote : Except Failure CompiledForm × Nat → List (String × String)
  | (.ok c, _) => [("keyword", "blocks=" ++ toString c.blocks.length)]
  | (.error _, _) => []

/-- Understand a prompt without the oracle, as an outline or by its keywords. -/
def withoutOracle (config : Config) (ids : IdSource) (drawn : Nat) (requestId prompt : String) :
    Compilation :=
  match Outline.formOfPrompt? prompt with
  | .error e => ⟨[], [], (.error e, drawn)⟩
  | .ok (some form) =>
    ⟨[], [("heuristic", outlineNote form)], ofForm config requestId .heuristic form ids drawn⟩
  | .ok none =>
    let outcome := ofKeywords config requestId prompt ids drawn
    ⟨[], keywordNote outcome, outcome⟩

/-- Understand a prompt that is no definition. -/
def withOracle (config : Config) (oracle? : Option Oracle) (ids : IdSource) (drawn : Nat)
    (requestId prompt : String) : Compilation :=
  let a := attempt config oracle? prompt
  match a.form with
  | .error e => ⟨a.calls, [], (.error e, drawn)⟩
  | .ok (some form) =>
    ⟨a.calls, [("oracle", a.note)], ofForm config requestId .oracle form ids drawn⟩
  | .ok none =>
    let rest := withoutOracle config ids drawn requestId prompt
    ⟨a.calls, ("oracle", a.note) :: rest.stages, rest.outcome⟩

/-- Compile a prompt, drawing ids after those that are drawn already. -/
def compile (config : Config) (oracle? : Option Oracle) (ids : IdSource) (drawn : Nat)
    (requestId prompt : String) : Compilation :=
  let start := ("start", "promptChars=" ++ toString prompt.length)
  match Definition.formOfPrompt? prompt with
  | .error e => ⟨[], [start], (.error e, drawn)⟩
  | .ok (some form) =>
    ⟨[], [start, ("structured", fieldNote form)],
      ofForm config requestId .structured form ids drawn⟩
  | .ok none =>
    let rest := withOracle config oracle? ids drawn requestId prompt
    { rest with stages := start :: rest.stages }

def traceLine (requestId : String) (stage : String × String) : String :=
  onText Text.trimEnd
    ("[FormCompiler] requestId=" ++ requestId ++ " stage=" ++ stage.1 ++ " " ++ stage.2)

/-- What is written about the stages of a compilation when it is traced. -/
def Compilation.trace (c : Compilation) (config : Config) (requestId : String) : List String :=
  if config.debug then c.stages.map (traceLine requestId) else []

def requestIdAt (time : String) : String := "form_compile_" ++ time

end Compiler

end PromptForm
