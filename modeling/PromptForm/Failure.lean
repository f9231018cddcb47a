import PromptForm.Json.Depth
import PromptForm.Json.Error
import PromptForm.Number.Numeral
import PromptForm.Schema.Checked
import PromptForm.Text.Quote

/-! # Failures

Why a prompt or a form cannot be compiled or written down. All of them come from values that do not
have the shape or the size that is needed.
-/

namespace PromptForm

/-- Why compiling or writing breaks off. -/
inductive Failure where
  /-- A value does not have the right shape. -/
  | invalid (issues : List Issue)
  /-- A whole number is needed and the number is not finite. -/
  | notFinite (cause : NotFinite)
  /-- A whole number has too many digits. -/
  | tooLong (digits : Nat)
  /-- A text is needed as a whole number and is none. Its beginning is kept. -/
  | noNumeral (text : List Char)
  /-- A value that is no text is used as one. -/
  | noText
  /-- A value that is no number or list is used as one. -/
  | unsuitable
  /-- A line comes before any section. -/
  | noSection
  /-- A value that is kept as it is has too many levels to be written. -/
  | tooDeep
  /-- JSON text has too many levels to be read. -/
  | tooNested (e : TooNested)
  deriving DecidableEq, Repr

namespace Failure

/-- The number of characters of a quoted text that a failure shows. -/
def shownLength : Nat := 200

def message : Failure → String
  | invalid _ => "invalid value"
  | notFinite cause => cause.message
  | tooLong digits => Numeral.tooLongMessage digits
  | noNumeral text =>
    "invalid literal for int() with base 10: " ++
      String.ofList ((Text.quote text).take shownLength)
  | noText => "not a text"
  | unsuitable => "not a number or list"
  | noSection => "no section"
  | tooDeep => "Maximum serialization depth exceeded"
  | tooNested e => e.message

def ofNumeral (text : List Char) : NumeralError → Failure
  | .malformed => noNumeral text
  | .tooLong digits => tooLong digits

end Failure

/-- A value that holds some others as they are, unless one of them has too many levels to be written
inside of `levels` further ones. -/
def Json.holding (levels : Nat) (parts : List Json) (v : Json) : Except Failure Json :=
  if parts.all (fitsUnder levels) then .ok v else .error .tooDeep

/-- The value of a check, or the failure that it stands for. -/
def Checked.toExcept : Checked α → Except Failure α
  | .ok a => .ok a
  | .bad issues => .error (.invalid issues)
  | .overflow => .error (.notFinite .infinity)

end PromptForm
