import PromptForm.Number.Power

/-! # Binary floating-point numbers

Numbers in 64-bit binary floating point, as values: a finite number is a significand of at most 53
bits times a power of two. Every operation rounds the exact result to the nearest number, a tie
going to the even significand.
-/

namespace PromptForm

/-- A number in 64-bit binary floating point. -/
inductive Double where
  /-- No number. -/
  | nan
  /-- An infinity. -/
  | infinite (negative : Bool)
  /-- `± significand * 2 ^ exponent`. The significand is below `2 ^ 53`, and at least `2 ^ 52`
  unless the exponent is the least one, `-1074`. -/
  | finite (negative : Bool) (significand : Nat) (exponent : Int)
  deriving DecidableEq, Repr

/-- Why a floating-point number has no whole part. -/
inductive NotFinite where
  | infinity
  | nan
  deriving DecidableEq, Repr

def NotFinite.message : NotFinite → String
  | .infinity => "cannot convert float infinity to integer"
  | .nan => "cannot convert float NaN to integer"

namespace Double

def zero (negative : Bool) : Double := .finite negative 0 (-1074)

/-- A quotient rounded to the nearest whole number, a tie going to the even one. -/
def roundQuotient (num den : Nat) : Nat :=
  let q := num / den
  let r := 2 * (num % den)
  if r < den then q
  else if den < r then q + 1
  else if q % 2 == 0 then q else q + 1

/-- `n * 2 ^ k / d`, rounded. -/
def roundScaled (n d : Nat) (k : Int) : Nat :=
  if 0 ≤ k then roundQuotient (n * twoPow k.toNat) d else roundQuotient n (d * twoPow (-k).toNat)

/-- The greatest `k` with `2 ^ k ≤ num / den`, for positive `num` and `den`. -/
def quotientLog2 (num den : Nat) : Int :=
  let k : Int := (num.log2 : Int) - (den.log2 : Int)
  let reached := if 0 ≤ k then den * twoPow k.toNat ≤ num else den ≤ num * twoPow (-k).toNat
  if reached then k else k - 1

/-- The number nearest to `± num / den`. -/
def ofQuotient (negative : Bool) (num den : Nat) : Double :=
  if num == 0 then zero negative
  else
    let exponent := max (quotientLog2 num den - 52) (-1074)
    let significand := roundScaled num den (-exponent)
    let (significand, exponent) :=
      if significand == twoPow 53 then (twoPow 52, exponent + 1) else (significand, exponent)
    if 971 < exponent then .infinite negative else .finite negative significand exponent

def ofInt (n : Int) : Double := ofQuotient (n < 0) n.natAbs 1

/-- The number nearest to `± digits * 10 ^ exponent`. Exponents far outside the range of the
format are settled by the number of digits alone. -/
def ofDecimal (negative : Bool) (digits : Nat) (exponent : Int) : Double :=
  if digits == 0 then zero negative
  else
    let magnitude := (digits.log2 : Int) * 30103 / 100000 + exponent
    if 310 < magnitude then .infinite negative
    else if magnitude < -330 then zero negative
    else if 0 ≤ exponent then ofQuotient negative (digits * tenPow exponent.toNat) 1
    else ofQuotient negative digits (tenPow (-exponent).toNat)

def isZero : Double → Bool
  | .finite _ significand _ => significand == 0
  | _ => false

def isWhole : Double → Bool
  | .finite _ significand exponent => 0 ≤ exponent || significand % twoPow (-exponent).toNat == 0
  | _ => false

def toInt : Double → Except NotFinite Int
  | .nan => .error .nan
  | .infinite _ => .error .infinity
  | .finite negative significand exponent =>
    let n : Nat :=
      if 0 ≤ exponent then significand * twoPow exponent.toNat
      else significand / twoPow (-exponent).toNat
    .ok (if negative then -(n : Int) else n)

/-- The product with a power of two. -/
def timesPowerOfTwo (x : Double) (k : Nat) : Double :=
  match x with
  | .finite negative significand exponent =>
    let shifted := exponent + k
    if 0 ≤ shifted then ofQuotient negative (significand * twoPow shifted.toNat) 1
    else ofQuotient negative significand (twoPow (-shifted).toNat)
  | x => x

end Double

end PromptForm
