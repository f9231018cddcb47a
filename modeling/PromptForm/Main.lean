import PromptForm.CommandLine
import PromptForm.Text.Digest

/-! # The program

Compiles a prompt into a request for a form. The program has no network of its own, so that the host
of the forms cannot be reached from here.
-/

namespace PromptForm

def variableNames : List String := [
  "FORM_ORACLE_MIN_FIELDS", "FORM_USE_ORACLE", "FORM_ATTRIBUTION_TEXT",
  "FORM_DEFAULT_CONFIRMATION_MESSAGE", "FORM_COMPILER_DEBUG", "TALLY_API_KEY",
  "TALLY_API_BASE_URL", "TALLY_HTTP_TIMEOUT_SEC"]

def readEnvironment : IO Environment :=
  variableNames.filterMapM fun name => do
    return (← IO.getEnv name).map fun value => (name, value)

/-- A random id in the usual form, made from a seed and a number. -/
def idOfSeed (seed : String) (n : Nat) : String :=
  let digest := Digest.ofText (seed ++ " " ++ toString n)
  let part (shift width : Nat) : String :=
    String.ofList (Text.hexDigits width (digest / Nat.pow 16 shift % Nat.pow 16 width))
  part 0 8 ++ "-" ++ part 8 4 ++ "-4" ++ part 12 3 ++ "-a" ++ part 15 3 ++ "-" ++ part 18 12

/-- What can be reached from here. -/
def localWorld (seed : String) : Hosting.World := ⟨fun _ _ => .unreachable, idOfSeed seed⟩

def usage : String :=
  "usage: (--prompt PROMPT | --file FILE) [--create] [--status DRAFT|PUBLISHED] " ++
    "[--title TITLE] [--workspace-id ID] [--no-oracle]"

def readPrompt (a : CommandLine.Arguments) : IO String := do
  if a.file.isEmpty then return a.prompt
  return onText CommandLine.fileText (← IO.FS.readFile a.file)

def runArguments (a : CommandLine.Arguments) : IO UInt32 := do
  let env ← readEnvironment
  let prompt ← readPrompt a
  let time ← IO.monoMsNow
  let seed ← IO.rand 0 (twoPow 128)
  let world := localWorld (toString seed)
  let (outcome, state) :=
    CommandLine.run env (toString time) a prompt world Hosting.State.empty
  for line in state.traced do
    IO.println line
  match outcome with
  | .ok (.result v) => IO.println v.pretty; return 0
  | .ok (.complaint message) => IO.eprint message; return 1
  | .error e => IO.eprintln e.message; return 1

end PromptForm

def main (args : List String) : IO UInt32 := do
  match PromptForm.CommandLine.parse args with
  | .help => IO.println PromptForm.usage; return 0
  | .wrong => IO.eprintln PromptForm.usage; return 2
  | .run a => PromptForm.runArguments a
