import PromptForm.Json.Basic
import PromptForm.Text.Case

/-! # Secrets

Values under some keys are secrets, whatever the case of the key. They are masked before anything is
logged.
-/

namespace PromptForm.Web

def secretKeys : List String := [
  "authorization", "cookie", "set-cookie", "x-api-key", "api_key", "apikey", "token", "secret",
  "password", "openai_api_key", "groq_api_key", "tally_api_key", "x-tally-api-key"]

def isSecretKey (key : String) : Bool := secretKeys.contains (lowered key)

def mask : String := "***"

mutual

/-- A value with its secrets masked, at any depth. That the stack can run out on a value with some
hundreds of levels is left out. -/
def redact : Json → Json
  | .array items => .array (redactItems items)
  | .object entries => .object (redactEntries entries)
  | v => v

def redactItems : List Json → List Json
  | [] => []
  | v :: rest => redact v :: redactItems rest

def redactEntries : List (String × Json) → List (String × Json)
  | [] => []
  | (key, v) :: rest =>
    (key, if isSecretKey key then .text mask else redact v) :: redactEntries rest

end

end PromptForm.Web
