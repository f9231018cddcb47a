import PromptForm.Environment
import PromptForm.Lowering.Question

/-! # Configuration of the compiler -/

namespace PromptForm.Compiler

/-- What can be set about compiling. -/
structure Config where
  /-- The least number of fields of a form that is taken from the oracle. -/
  oracleMinFields : Int
  /-- Is the oracle asked at all? -/
  usesOracle : Bool
  /-- The text of the closing block. -/
  attribution : String
  /-- What is shown after a submission when nothing else is asked for. -/
  confirmation : String
  /-- Are the stages traced? -/
  debug : Bool
  deriving DecidableEq, Repr

namespace Config

def default : Config := ⟨4, true, defaultAttribution, "Thank you for your submission!", false⟩

def ofEnvironment (env : Environment) : Config where
  oracleMinFields := max 0 (env.whole "FORM_ORACLE_MIN_FIELDS" default.oracleMinFields)
  usesOracle := env.flag "FORM_USE_ORACLE" default.usesOracle
  attribution := (env.text? "FORM_ATTRIBUTION_TEXT").getD default.attribution
  confirmation := (env.text? "FORM_DEFAULT_CONFIRMATION_MESSAGE").getD default.confirmation
  debug := env.flag "FORM_COMPILER_DEBUG" default.debug

end Config

end PromptForm.Compiler
