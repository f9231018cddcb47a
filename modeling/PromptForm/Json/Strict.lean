import PromptForm.Json.Basic
import PromptForm.Number.Numeral

/-! # Strict JSON text

What is sent to others is strict JSON text. It has no place for numbers that are not finite, and
whole numbers of too many digits are not written.
-/

namespace PromptForm

/-- Why a value has no strict JSON text. -/
inductive Unwritable where
  /-- A number in it is not finite. -/
  | notFinite
  /-- A whole number in it has too many digits. -/
  | tooLong
  deriving DecidableEq, Repr

def Unwritable.message : Unwritable → String
  | notFinite => "Out of range float values are not JSON compliant"
  | tooLong =>
    "Exceeds the limit (4300 digits) for integer string conversion; " ++
      "use sys.set_int_max_str_digits() to increase the limit"

namespace Json

mutual

/-- The first reason, in the order of the text, why a value has no strict JSON text. -/
def unwritable? : Json → Option Unwritable
  | .int n => if n.natAbs < tenPow Numeral.maxDigits then none else some .tooLong
  | .double .nan => some .notFinite
  | .double (.infinite _) => some .notFinite
  | .array items => unwritableItem? items
  | .object entries => unwritableEntry? entries
  | _ => none

def unwritableItem? : List Json → Option Unwritable
  | [] => none
  | v :: rest => unwritable? v <|> unwritableItem? rest

def unwritableEntry? : List (String × Json) → Option Unwritable
  | [] => none
  | (_, v) :: rest => unwritable? v <|> unwritableEntry? rest

end

end Json

end PromptForm
