import PromptForm.Number.Double
import PromptForm.Text.Blank
import PromptForm.Text.Digit

/-! # Numerals

Reading whole and decimal numbers from text. White space around a numeral is passed over, digits
may be those of any script, and single underscores may stand between digits. A whole number of
more than 4300 digits is refused.
-/

namespace PromptForm

/-- Why a text is not read as a whole number. -/
inductive NumeralError where
  /-- It is not a numeral. -/
  | malformed
  /-- It is a numeral of too many digits. -/
  | tooLong (digits : Nat)
  deriving DecidableEq, Repr

namespace Numeral

/-- The most digits that a whole number may have. -/
def maxDigits : Nat := 4300

def tooLongMessage (digits : Nat) : String :=
  "Exceeds the limit (4300 digits) for integer string conversion: value has " ++
    String.ofList (Nat.toDigits 10 digits) ++
    " digits; use sys.set_int_max_str_digits() to increase the limit"

/-- White space that may stand around a numeral: all of it but the four separator controls. -/
def isPadding (c : Char) : Bool := Text.isBlank c && !(28 ≤ c.toNat && c.toNat ≤ 31)

/-- Remove the underscores of a text, each of which must stand between two digits. -/
def dropUnderscores? (afterDigit : Bool) : List Char → Option (List Char)
  | [] => some []
  | '_' :: rest =>
    if afterDigit && (rest.head?.any Text.isDigit) then dropUnderscores? false rest else none
  | c :: rest => (dropUnderscores? (Text.isDigit c) rest).map (c :: ·)

def splitSign : List Char → Bool × List Char
  | '-' :: rest => (true, rest)
  | '+' :: rest => (false, rest)
  | cs => (false, cs)

/-- `± n` as a whole number. -/
def signed (negative : Bool) (n : Nat) : Int := if negative then -(n : Int) else n

/-- The number that a run of digits writes, if the run is not too long. -/
def readDigits (digits : List Char) : Except NumeralError Nat :=
  if maxDigits < digits.length then .error (.tooLong digits.length)
  else .ok (Text.digitsValue digits)

/-- Read a whole number. Digits are counted before what follows them is looked at. -/
def readInt (cs : List Char) : Except NumeralError Int :=
  let (negative, body) := splitSign (cs.dropWhile isPadding)
  let run := body.takeWhile fun c => Text.isDigit c || c == '_'
  let after := body.dropWhile fun c => Text.isDigit c || c == '_'
  match dropUnderscores? false run with
  | none => .error .malformed
  | some [] => .error .malformed
  | some digits => do
    let n ← readDigits digits
    if after.all isPadding then return signed negative n else throw .malformed

/-- The floating-point number that the parts of a decimal numeral write. -/
def decimalValue (negative : Bool) (whole fraction : List Char) (exponent : Int) : Double :=
  Double.ofDecimal negative (Text.digitsValue (whole ++ fraction)) (exponent - fraction.length)

/-- Read an exponent such as `e-5` that ends the text, or nothing. -/
def readExponent? : List Char → Option Int
  | [] => some 0
  | mark :: rest =>
    if mark == 'e' || mark == 'E' then
      let (negative, digits) := splitSign rest
      if digits.isEmpty || !digits.all Text.isDigit then none
      else some (signed negative (Text.digitsValue digits))
    else none

/-- Read an unsigned decimal numeral: digits with an optional point and an optional exponent. -/
def readDecimal? (negative : Bool) (cs : List Char) : Option Double :=
  let whole := cs.takeWhile Text.isDigit
  match cs.dropWhile Text.isDigit with
  | '.' :: rest =>
    let fraction := rest.takeWhile Text.isDigit
    if whole.isEmpty && fraction.isEmpty then none
    else (readExponent? (rest.dropWhile Text.isDigit)).map (decimalValue negative whole fraction)
  | rest =>
    if whole.isEmpty then none else (readExponent? rest).map (decimalValue negative whole [])

/-- Read a decimal number, an infinity (`inf`, `infinity`) or `nan`, the words in any case. -/
def readDouble? (cs : List Char) : Option Double := do
  let body := Text.stripWhere isPadding cs
  let (negative, unsigned) ← (dropUnderscores? false body).map splitSign
  let word := unsigned.map Char.toLower
  if word == "inf".toList || word == "infinity".toList then some (.infinite negative)
  else if word == "nan".toList then some .nan
  else readDecimal? negative unsigned

end Numeral

end PromptForm
