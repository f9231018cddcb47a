import PromptForm.Number.Numeral
import PromptForm.Text.Case

/-! # Environment variables

Settings come from named variables. A variable that is not there or blank leaves the default; so
does one that stands for no number where a number is needed.
-/

namespace PromptForm

/-- The variables with their texts. -/
abbrev Environment := List (String × String)

namespace Environment

def get? (env : Environment) (name : String) : Option String := (env.find? (·.1 == name)).map (·.2)

/-- The trimmed text of a variable, unless it is blank. -/
def text? (env : Environment) (name : String) : Option String := (env.get? name).bind trimmed?

def firstText? (env : Environment) (names : List String) : Option String :=
  names.findSome? env.text?

def onWords : List String := ["1", "true", "yes", "y", "on"]

/-- A switch. Every text that does not switch it on switches it off. -/
def flag (env : Environment) (name : String) (default : Bool) : Bool :=
  match env.text? name with
  | some s => onWords.contains (lowered s)
  | none => default

def whole (env : Environment) (name : String) (default : Int) : Int :=
  match (env.text? name).map fun s => Numeral.readInt s.toList with
  | some (.ok n) => n
  | _ => default

def double (env : Environment) (name : String) (default : Double) : Double :=
  ((env.text? name).bind fun s => Numeral.readDouble? s.toList).getD default

/-- Does a variable have a text, even a blank one? -/
def has (env : Environment) (name : String) : Bool := (env.get? name).any (!·.isEmpty)

end Environment

end PromptForm
