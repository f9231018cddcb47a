import PromptForm.Number.Double

/-! # Shortest decimal text

A finite number is written with the fewest digits that read back to it; of several such decimals
the nearest is taken, and of two equally near ones that with the even last digit. The numbers from
`10 ^ -4` up to `10 ^ 16` are written positionally and always show a fraction, the others with an
exponent of at least two digits.
-/

namespace PromptForm

/-- `digits * 10 ^ exponent`. -/
structure Decimal where
  digits : Nat
  exponent : Int
  deriving DecidableEq, Repr

namespace Decimal

/-- The order of `a * 2 ^ p * 10 ^ x` and `b`. -/
def compareScaled (a : Nat) (p x : Int) (b : Nat) : Ordering :=
  compare (a * twoPow p.toNat * tenPow x.toNat) (b * twoPow (-p).toNat * tenPow (-x).toNat)

/-- Do the reals that round to `significand * 2 ^ exponent` include `d`? They reach halfway to both
neighbours, and the ends belong to them when the significand is even. Below a power of two the
neighbour is only half as far away. -/
def readsBack (significand : Nat) (exponent : Int) (d : Decimal) : Bool :=
  let below := if significand == twoPow 52 && exponent != -1074 then 1 else 2
  let low := compareScaled d.digits (2 - exponent) d.exponent (4 * significand - below)
  let high := compareScaled d.digits (2 - exponent) d.exponent (4 * significand + 2)
  if significand % 2 == 0 then low != .lt && high != .gt else low == .gt && high == .lt

/-- `⌊significand * 2 ^ exponent / 10 ^ x⌋`. -/
def floorScaled (significand : Nat) (exponent x : Int) : Nat :=
  significand * twoPow exponent.toNat * tenPow (-x).toNat /
    (twoPow (-exponent).toNat * tenPow x.toNat)

/-- The least `k` with `significand * 2 ^ exponent < 10 ^ k`. The estimate from the binary
logarithm is at most one off. -/
def magnitude (significand : Nat) (exponent : Int) : Int :=
  let estimate := ((significand.log2 : Int) + exponent) * 30103 / 100000
  if compareScaled significand exponent (-estimate) 1 == .lt then estimate
  else if compareScaled significand exponent (-(estimate + 1)) 1 == .lt then estimate + 1
  else estimate + 2

/-- The decimal with `count` digits that reads back to the number and is nearest to it. -/
def withDigits? (significand : Nat) (exponent : Int) (k : Int) (count : Nat) : Option Decimal :=
  let x := k - count
  let lower := floorScaled significand exponent x
  let below : Decimal := ⟨lower, x⟩
  let above : Decimal := ⟨lower + 1, x⟩
  match readsBack significand exponent below, readsBack significand exponent above with
  | false, false => none
  | true, false => some below
  | false, true => some above
  | true, true =>
    match compareScaled (2 * significand) exponent (-x) (2 * lower + 1) with
    | .lt => some below
    | .gt => some above
    | .eq => some (if lower % 2 == 0 then below else above)

/-- Move up to `fuel` trailing zeros of the digits into the exponent. -/
def dropZeros : Nat → Decimal → Decimal
  | 0, d => d
  | fuel + 1, d =>
    if d.digits != 0 && d.digits % 10 == 0 then dropZeros fuel ⟨d.digits / 10, d.exponent + 1⟩
    else d

/-- The shortest decimal of a positive finite number. Seventeen digits always suffice. -/
def shortest (significand : Nat) (exponent : Int) : Decimal :=
  let k := magnitude significand exponent
  let found := (List.range 17).findSome? fun n => withDigits? significand exponent k (n + 1)
  dropZeros 20 (found.getD ⟨floorScaled significand exponent (k - 17), k - 17⟩)

def digitChars (n : Nat) : List Char := Nat.toDigits 10 n

def layout (d : Decimal) : List Char :=
  let digits := digitChars d.digits
  let point : Int := digits.length + d.exponent
  if point ≤ -4 || 16 < point then
    let mantissa :=
      match digits with
      | [] => []
      | [c] => [c]
      | c :: rest => c :: '.' :: rest
    let exponent := point - 1
    let shown := digitChars exponent.natAbs
    mantissa ++ ['e', if exponent < 0 then '-' else '+'] ++
      List.replicate (2 - shown.length) '0' ++ shown
  else if point ≤ 0 then '0' :: '.' :: List.replicate (-point).toNat '0' ++ digits
  else if digits.length ≤ point then
    digits ++ List.replicate (point - digits.length).toNat '0' ++ ['.', '0']
  else digits.take point.toNat ++ '.' :: digits.drop point.toNat

end Decimal

def Double.text : Double → List Char
  | .nan => ['n', 'a', 'n']
  | .infinite negative => (if negative then ['-'] else []) ++ ['i', 'n', 'f']
  | .finite negative significand exponent =>
    (if negative then ['-'] else []) ++
      if significand == 0 then ['0', '.', '0'] else (Decimal.shortest significand exponent).layout

def intText (n : Int) : List Char :=
  if n < 0 then '-' :: Decimal.digitChars n.natAbs else Decimal.digitChars n.natAbs

end PromptForm
