import Mathlib.Data.List.Basic
import PromptForm.Proofs.Text.Case
import PromptForm.Proofs.Text.Line

/-! # Words in a lowercase text

A word of basic letters in the lowercase of a text comes from the same word, in some case, in the
text. It stands further to the right in the lowercase, by one place for each dotted capital `I` in
front of it, since no other character becomes two. White space comes from white space alone. What is
on one line makes no difference to the lowercase of another.
-/

namespace PromptForm.Text

/-- The lowercase of one character of a text. -/
def lowerAt (before : List Char) (c : Char) (rest : List Char) : List Char :=
  if c = 'Σ' then [if casedNext before && !casedNext rest then 'ς' else 'σ'] else lowerChar c

theorem lowerFrom_cons (before : List Char) (c : Char) (rest : List Char) :
    lowerFrom before (c :: rest) = lowerAt before c rest ++ lowerFrom (c :: before) rest := rfl

theorem lowerAt_basic {before rest : List Char} {c : Char} (basic : c.toNat < 128) :
    lowerAt before c rest = [c.toLower] := by
  have sigma : c ≠ 'Σ' := by
    rintro rfl
    exact absurd basic (by decide)
  rw [lowerAt, if_neg sigma, lowerChar, if_pos basic]

/-- A character becomes two if it is the dotted capital `I`, and else one. -/
theorem length_lowerAt (before rest : List Char) (c : Char) :
    (lowerAt before c rest).length = if c = 'İ' then 2 else 1 := by
  rw [lowerAt]
  by_cases sigma : c = 'Σ'
  · subst sigma
    rfl
  · rw [if_neg sigma, lowerChar]
    by_cases basic : c.toNat < 128
    · have undotted : c ≠ 'İ' := by
        rintro rfl
        exact absurd basic (by decide)
      rw [if_pos basic, if_neg undotted]
      rfl
    · rw [if_neg basic]
      by_cases dotted : c = 'İ'
      · subst dotted
        rfl
      · have other : c.toNat ≠ 0x130 := by
          intro same
          exact dotted (by rw [← Char.ofNat_toNat c, same])
        have single : lowerExpansions.find? (·.1 == c.toNat) = none := by
          simp [lowerExpansions, other.symm]
        simp only [mapCase, single, if_neg dotted]
        split <;> rfl

/-- The lowercase of a character that shows does so throughout. -/
theorem lowerAt_shown {before rest : List Char} {c : Char} (shown : isBlank c = false) :
    ∀ d ∈ lowerAt before c rest, isBlank d = false := by
  by_cases basic : c.toNat < 128
  · have letters : ∀ n < 128, isBlank (Char.ofNat n) = false →
        isBlank (Char.ofNat n).toLower = false := by
      decide +kernel
    rw [lowerAt_basic basic]
    rw [← Char.ofNat_toNat c] at shown ⊢
    exact List.forall_mem_singleton.mpr (letters c.toNat basic shown)
  · by_cases sigma : c = 'Σ'
    · rw [lowerAt, if_pos sigma, List.forall_mem_singleton]
      split <;> rfl
    · have own : [c].all (!isBlank ·) = true := by simp [shown]
      rw [lowerAt, if_neg sigma, lowerChar, if_neg basic]
      exact forall_of_all (mapCase_cases (Q := fun cs => cs.all (!isBlank ·) = true) own
        (by decide +kernel) (by decide +kernel))

/-- A letter of its own in the lowercase of a character is the whole of it. -/
theorem lowerAt_own {before rest : List Char} {c p : Char} (own : isOwnLetter p)
    (h : p ∈ lowerAt before c rest) : lowerAt before c rest = [p] ∧ c.toNat < 128 := by
  by_cases basic : c.toNat < 128
  · rw [lowerAt_basic basic] at h ⊢
    rw [List.mem_singleton.mp h]
    exact ⟨rfl, basic⟩
  · exfalso
    by_cases sigma : c = 'Σ'
    · have final : ∀ d ∈ lowerAt before c rest, ¬ d.toNat < 128 := by
        rw [lowerAt, if_pos sigma, List.forall_mem_singleton]
        split <;> decide
      simp only [isOwnLetter, Bool.and_eq_true, decide_eq_true_eq] at own
      exact final p h own.1.1.1
    · rw [lowerAt, if_neg sigma, lowerChar, if_neg basic] at h
      exact not_mem_mapCase_lower own (Nat.le_of_not_lt basic) h

theorem length_lowerFrom (before cs : List Char) :
    (lowerFrom before cs).length = cs.length + cs.count 'İ' := by
  induction cs generalizing before with
  | nil => rfl
  | cons c rest ih =>
      rw [lowerFrom_cons, List.length_append, length_lowerAt, ih, List.length_cons, List.count_cons]
      split <;> simp_all <;> omega

theorem length_le_length_lower (cs : List Char) : cs.length ≤ (lower cs).length := by
  rw [lower, length_lowerFrom]
  omega

/-- Is a text empty, or is its last character white space? -/
def endsBlank (cs : List Char) : Bool := cs.getLast?.all isBlank

/-- Is a text empty, or is its first character white space? -/
def beginsBlank (cs : List Char) : Bool := cs.head?.all isBlank

theorem endsBlank_append {cs ds : List Char} (h : ds ≠ []) :
    endsBlank (cs ++ ds) = endsBlank ds := by
  rw [endsBlank, List.getLast?_append_of_ne_nil cs h, endsBlank]

theorem endsBlank_lowerAt {before rest : List Char} {c : Char}
    (h : endsBlank (lowerAt before c rest) = true) : isBlank c = true := by
  cases blank : isBlank c with
  | true => rfl
  | false =>
      have filled : lowerAt before c rest ≠ [] := by
        intro none_left
        have length := length_lowerAt before rest c
        rw [none_left] at length
        split at length <;> cases length
      rw [endsBlank, List.getLast?_eq_some_getLast filled, Option.all_some,
        lowerAt_shown blank _ (List.getLast_mem filled)] at h
      exact h

/-- A lowercase text has a letter behind `front` because the text itself has the letter, in some case,
behind `passed`. -/
structure Letter (before front behind : List Char) (p : Char) (passed : List Char) (c : Char)
    (rest : List Char) : Prop where
  basic : c.toNat < 128
  case : c.toLower = p
  length : front.length = passed.length + passed.count 'İ'
  blank : endsBlank front = true → endsBlank passed = true
  behind : behind = lowerFrom (c :: (passed.reverse ++ before)) rest

theorem Letter.cons {before front behind passed rest tail : List Char} {p c d : Char}
    (h : Letter (d :: before) front behind p passed c rest) :
    Letter before (lowerAt before d tail ++ front) behind p (d :: passed) c rest where
  basic := h.basic
  case := h.case
  length := by
    rw [List.length_append, length_lowerAt, h.length, List.length_cons, List.count_cons]
    by_cases dotted : d = 'İ'
    · simp [dotted]
      omega
    · simp [dotted]
      omega
  blank := by
    intro ends
    cases passed with
    | nil =>
        have nothing : front = [] := List.eq_nil_of_length_eq_zero h.length
        rw [nothing, List.append_nil] at ends
        exact endsBlank_lowerAt ends
    | cons e passed =>
        have filled : front ≠ [] := by
          rw [← List.length_pos_iff, h.length, List.length_cons]
          omega
        rw [endsBlank_append filled] at ends
        exact h.blank ends
  behind := by
    rw [h.behind, List.reverse_cons, List.append_assoc, List.singleton_append]

/-- A letter of its own in a lowercase text comes from the letter, in some case, in the text. -/
theorem exists_letter {before cs front behind : List Char} {p : Char} (own : isOwnLetter p)
    (h : lowerFrom before cs = front ++ p :: behind) :
    ∃ passed c rest, cs = passed ++ c :: rest ∧ Letter before front behind p passed c rest := by
  induction cs generalizing before front with
  | nil => simp [lowerFrom] at h
  | cons d tail ih =>
      rw [lowerFrom_cons] at h
      rcases List.append_eq_append_iff.mp h with ⟨front', rfl, later⟩ | ⟨beyond, here, later⟩
      · obtain ⟨passed, c, rest, rfl, letter⟩ := ih later
        exact ⟨d :: passed, c, rest, rfl, letter.cons⟩
      · cases beyond with
        | nil =>
            rw [List.append_nil] at here
            have at_front : lowerFrom (d :: before) tail = [] ++ p :: behind := later.symm
            obtain ⟨passed, c, rest, rfl, letter⟩ := ih at_front
            refine ⟨d :: passed, c, rest, rfl, ?_⟩
            rw [← here, ← List.append_nil (lowerAt before d _)]
            exact letter.cons
        | cons q beyond =>
            rw [List.cons_append, List.cons.injEq] at later
            obtain ⟨rfl, rfl⟩ := later
            obtain ⟨whole, basic⟩ := lowerAt_own own (by rw [here]; simp)
            have same : d.toLower = p := by
              rw [lowerAt_basic basic] at whole
              exact List.singleton_inj.mp whole
            rw [whole] at here
            rcases List.singleton_eq_append_iff.mp here with ⟨rfl, alone⟩ | ⟨_, nothing⟩
            · rw [List.cons.injEq] at alone
              rw [alone.2, List.nil_append]
              exact ⟨[], d, tail, rfl, basic, same, rfl, fun ends => ends, rfl⟩
            · cases nothing

/-! ## Words -/

theorem lowerFrom_basic {before cs : List Char} (basic : ∀ c ∈ cs, c.toNat < 128) :
    lowerFrom before cs = cs.map Char.toLower := by
  induction cs generalizing before with
  | nil => rfl
  | cons c rest ih =>
      obtain ⟨here, others⟩ := List.forall_mem_cons.mp basic
      rw [lowerFrom_cons, lowerAt_basic here, ih others]
      rfl

/-- A word of own letters at the front of a lowercase text comes from the same word. -/
theorem lowerFrom_word {before cs word behind : List Char} (own : ∀ p ∈ word, isOwnLetter p)
    (h : lowerFrom before cs = word ++ behind) :
    ∃ spelled rest, cs = spelled ++ rest ∧ (∀ c ∈ spelled, c.toNat < 128) ∧
      spelled.map Char.toLower = word ∧ behind = lowerFrom (spelled.reverse ++ before) rest := by
  induction word generalizing before cs with
  | nil => exact ⟨[], cs, rfl, List.forall_mem_nil _, rfl, h.symm⟩
  | cons p word ih =>
      obtain ⟨here, others⟩ := List.forall_mem_cons.mp own
      obtain ⟨c, tail, rfl, basic, letter, later⟩ := lowerFrom_head here h
      obtain ⟨spelled, rest, rfl, all_basic, same, rfl⟩ := ih others later.symm
      refine ⟨c :: spelled, rest, rfl, List.forall_mem_cons.mpr ⟨basic, all_basic⟩, ?_, by simp⟩
      rw [List.map_cons, letter, same]

theorem beginsBlank_of_lowerFrom {before cs : List Char}
    (h : beginsBlank (lowerFrom before cs) = true) : beginsBlank cs = true := by
  cases cs with
  | nil => rfl
  | cons c rest =>
      cases blank : isBlank c with
      | true => exact blank
      | false =>
          have length := length_lowerAt before rest c
          cases image : lowerAt before c rest with
          | nil =>
              rw [image] at length
              split at length <;> cases length
          | cons d ds =>
              have shown := lowerAt_shown blank d (by rw [image]; exact List.mem_cons_self)
              rw [lowerFrom_cons, image] at h
              simp [beginsBlank, shown] at h

/-- A word of own letters in a lowercase text comes from the same word, in some case, in the text,
which stands further to the left by one place for each dotted capital `I` in front of it. If there is
white space, or nothing, at a side of the word in the lowercase, then so there is in the text. -/
theorem exists_word {cs front word behind : List Char} (own : ∀ p ∈ word, isOwnLetter p)
    (filled : word ≠ []) (h : lower cs = front ++ (word ++ behind)) :
    ∃ passed spelled rest, cs = passed ++ (spelled ++ rest) ∧ lower spelled = word ∧
      front.length = passed.length + passed.count 'İ' ∧
      (endsBlank front = true → endsBlank passed = true) ∧
      (beginsBlank behind = true → beginsBlank rest = true) := by
  obtain ⟨p, ps, rfl⟩ := List.exists_cons_of_ne_nil filled
  obtain ⟨here, others⟩ := List.forall_mem_cons.mp own
  obtain ⟨passed, c, tail, rfl, letter⟩ := exists_letter here h
  obtain ⟨spelled, rest, rfl, basic, same, rfl⟩ := lowerFrom_word others letter.behind.symm
  refine ⟨passed, c :: spelled, rest, rfl, ?_, letter.length, letter.blank,
    beginsBlank_of_lowerFrom⟩
  rw [lower, lowerFrom_basic (List.forall_mem_cons.mpr ⟨letter.basic, basic⟩), List.map_cons,
    letter.case, same]

/-! ## Lines -/

section Apart

variable {x : Char} (uncased : isCased x = false) (seen : isCaseIgnorable x = false)

include uncased seen

/-- The search for a cased letter ends at a character that is none and is not passed over. -/
theorem casedNext_past (cs ds : List Char) : casedNext (cs ++ x :: ds) = casedNext cs := by
  rw [casedNext, casedNext, List.dropWhile_append]
  cases kept : cs.dropWhile isCaseIgnorable with
  | nil => simp [seen, uncased]
  | cons c rest => rfl

/-- What comes behind such a character makes no difference to the lowercase of what is before it. -/
theorem lowerFrom_past (before cs ds : List Char) : lowerFrom before (cs ++ x :: ds) =
    lowerFrom before cs ++ lowerFrom (cs.reverse ++ before) (x :: ds) := by
  induction cs generalizing before with
  | nil => rfl
  | cons c cs ih =>
      have here : lowerAt before c (cs ++ x :: ds) = lowerAt before c cs := by
        simp only [lowerAt, casedNext_past uncased seen]
      rw [List.cons_append, lowerFrom_cons, lowerFrom_cons, here, ih, List.reverse_cons,
        List.append_assoc, List.append_assoc, List.singleton_append]

/-- What comes before such a character makes no difference to the lowercase of what is behind it. -/
theorem lowerFrom_behind (before far cs : List Char) :
    lowerFrom (before ++ x :: far) cs = lowerFrom before cs := by
  induction cs generalizing before with
  | nil => rfl
  | cons c cs ih =>
      have here : lowerAt (before ++ x :: far) c cs = lowerAt before c cs := by
        simp only [lowerAt, casedNext_past uncased seen]
      have later := ih (c :: before)
      rw [List.cons_append] at later
      rw [lowerFrom_cons, lowerFrom_cons, here, later]

end Apart

/-- The lowercase of two lines is that of each. -/
theorem lower_lines (cs ds : List Char) :
    lower (cs ++ '\n' :: ds) = lower cs ++ '\n' :: lower ds := by
  have uncased : isCased '\n' = false := by decide
  have seen : isCaseIgnorable '\n' = false := by decide
  have alone : lowerAt (cs.reverse ++ []) '\n' ds = ['\n'] := lowerAt_basic (by decide)
  have behind : lowerFrom ('\n' :: (cs.reverse ++ [])) ds = lower ds :=
    lowerFrom_behind uncased seen [] _ ds
  rw [lower, lowerFrom_past uncased seen, lowerFrom_cons, alone, behind]
  rfl

end PromptForm.Text
