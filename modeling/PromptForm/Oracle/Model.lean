import PromptForm.Environment
import PromptForm.Json.Basic
import PromptForm.Number.Number
import PromptForm.Text.Search

/-! # Language models

An oracle may be backed by a language model. Which one, and with which settings, is read from the
environment; without a credential for its provider there is none.
-/

namespace PromptForm.Oracle

/-- The name of a model after the name of its provider, which is not written twice. -/
def prefixedModel (provider model : String) : String :=
  let p := lowered (trimmed provider)
  let m := trimmed model
  if p.isEmpty then m
  else if (p ++ "/").toList.isPrefixOf m.toList then m
  else p ++ "/" ++ m

/-- A model of a provider. -/
structure ModelChoice where
  provider : String
  model : String
  deriving DecidableEq, Repr

namespace ModelChoice

def fullName (c : ModelChoice) : String := prefixedModel c.provider c.model

/-- The providers, with the variables that hold their credentials. -/
def credentials : List (String × String) :=
  [("groq", "GROQ_API_KEY"), ("openai", "OPENAI_API_KEY")]

def ofEnvironment? (env : Environment) : Option ModelChoice :=
  let provider := lowered ((env.text? "DSPY_PROVIDER").getD "groq")
  let model := (env.firstText? ["DSPY_FORM_PARSER_MODEL", "DSPY_MODEL"]).getD "llama-3.1-8b-instant"
  (credentials.find? (·.1 == provider)).bind fun row =>
    if env.has row.2 then some ⟨provider, model⟩ else none

end ModelChoice

/-- How a model is used. -/
structure ModelSettings where
  temperature : Number
  maxTokens : Int
  /-- In seconds. -/
  timeout : Number
  deriving Repr

namespace ModelSettings

def default : ModelSettings :=
  ⟨.double (.ofDecimal false 4 (-1)), 1600, .double (.ofDecimal false 20 0)⟩

def ofEnvironment (env : Environment) : ModelSettings where
  temperature := .double (env.double "DSPY_FORM_PARSER_TEMPERATURE"
    (env.double "DSPY_TEMPERATURE" (.ofDecimal false 4 (-1))))
  maxTokens := env.whole "DSPY_FORM_PARSER_MAX_TOKENS" default.maxTokens
  timeout := .double (env.double "DSPY_LLM_TIMEOUT_SEC" (.ofDecimal false 20 0))

end ModelSettings

/-- A language model with its settings. -/
structure LanguageModel where
  model : String
  settings : ModelSettings
  deriving Repr

namespace LanguageModel

def ofEnvironment? (env : Environment) : Option LanguageModel :=
  (ModelChoice.ofEnvironment? env).map fun choice =>
    ⟨choice.fullName, ModelSettings.ofEnvironment env⟩

/-- What a model is opened with. A call that fails is not made again. -/
def arguments (m : LanguageModel) : Entries := [
  ("model", .text m.model), ("temperature", m.settings.temperature.toJson),
  ("max_tokens", .int m.settings.maxTokens), ("timeout", m.settings.timeout.toJson),
  ("num_retries", .int 0)]

/-- What a model is opened with in the course of some calls: it is opened once, at the first. -/
def openings (m : LanguageModel) : List String → List Entries
  | [] => []
  | _ :: _ => [m.arguments]

/-- Does a line head a part of an answer? Such a line begins with a name between double brackets. -/
def isHeading (line : List Char) : Bool :=
  match Text.dropPrefix? "[[ ## ".toList (Text.trim line) with
  | none => false
  | some rest =>
    let name := rest.takeWhile Text.isWord
    !name.isEmpty && (Text.dropPrefix? " ## ]]".toList (rest.drop name.length)).isSome

/-- The text of an answer: the lines before the next heading, with line ends of one kind. -/
def answer (raw : String) : String :=
  trimmed (onText (fun cs =>
    Text.join ['\n'] ((Text.splitLines cs).takeWhile fun line => !isHeading line)) raw)

end LanguageModel

end PromptForm.Oracle
