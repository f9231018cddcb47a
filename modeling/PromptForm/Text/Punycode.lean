import PromptForm.Text.Blank

/-! # Names in basic characters

A name with characters beyond the 128 basic ones is written in basic ones: first the basic
characters that it has, then, after a hyphen, a run of numbers that say which other characters
stand where. The numbers are written in base 36 with thresholds that adapt to their size, so that
characters of one script take little room.
-/

namespace PromptForm.Punycode

def digit (n : Nat) : Char := if n < 26 then Char.ofNat (97 + n) else Char.ofNat (22 + n)

/-- The threshold at a place, counted in steps of 36. -/
def threshold (place bias : Nat) : Nat := max 1 (min 26 (place - bias))

/-- Below its threshold a number ends. What remains after a digit is smaller than the number. -/
theorem rest_lt {n t : Nat} (h : 1 ≤ t) (hn : ¬n < t) : (n - t) / (36 - t) < n := by
  have := Nat.div_le_self (n - t) (36 - t)
  omega

theorem one_le_threshold (place bias : Nat) : 1 ≤ threshold place bias := Nat.le_max_left _ _

def digitsFrom (bias place n : Nat) : List Char :=
  let t := threshold place bias
  if n < t then [digit n]
  else digit (t + (n - t) % (36 - t)) :: digitsFrom bias (place + 36) ((n - t) / (36 - t))
termination_by n
decreasing_by
  rename_i h
  exact rest_lt (one_le_threshold place bias) h

/-- The bias for numbers like `delta`, which was brought down to an average already. -/
def biasFrom (steps delta : Nat) : Nat :=
  if 455 < delta then biasFrom (steps + 36) (delta / 35) else steps + 36 * delta / (delta + 38)
termination_by delta
decreasing_by exact Nat.div_lt_self (by omega) (by omega)

/-- The bias after a number. The first number is damped, as it is often large. -/
def nextBias (delta written : Nat) (isFirst : Bool) : Nat :=
  let delta := if isFirst then delta / 700 else delta / 2
  biasFrom 0 (delta + delta / written)

/-- A name on its way into basic characters. -/
structure Progress where
  /-- The numbers so far. -/
  out : List Char
  /-- The number that comes next, so far. -/
  delta : Nat
  bias : Nat
  /-- How many characters of the name have been dealt with. -/
  written : Nat
  isFirst : Bool

/-- Pass a character on the way through the name, while the characters with code `code` are dealt
with. -/
def Progress.pass (code : Nat) (p : Progress) (c : Char) : Progress :=
  if c.toNat < code then { p with delta := p.delta + 1 }
  else if c.toNat == code then
    { out := p.out ++ digitsFrom p.bias 36 p.delta
      delta := 0
      bias := nextBias p.delta (p.written + 1) p.isFirst
      written := p.written + 1
      isFirst := false }
  else p

/-- Deal with the characters of a name code by code, the codes going up from `from`. -/
def Progress.through (name : List Char) (p : Progress) (next : Nat) : List Nat → Progress
  | [] => p
  | code :: codes =>
    let p := { p with delta := p.delta + (code - next) * (p.written + 1) }
    let p := name.foldl (Progress.pass code) p
    Progress.through name { p with delta := p.delta + 1 } (code + 1) codes

def encode (name : List Char) : List Char :=
  let basic := name.filter fun c => c.toNat < 128
  let codes := ((name.map Char.toNat).filter (128 ≤ ·)).mergeSort.eraseDups
  let hyphen := if basic.isEmpty then [] else ['-']
  basic ++ hyphen ++
    (Progress.through name ⟨[], 0, 72, basic.length, true⟩ 128 codes).out

end PromptForm.Punycode
