import PromptForm.Text.Case

/-! # Letters whose case is basic

A basic small letter that begins the lowercase of a text comes from a basic letter, small or capital.
Two letters are exceptions: a dotted capital `I` begins its lowercase with `i`, and the Kelvin sign
becomes `k`. A character that shows still does when it is capitalised.
-/

namespace PromptForm.Text

/-- A basic character that only a basic one has as its lowercase. -/
def isOwnLetter (p : Char) : Bool :=
  decide (p.toNat < 128) && p != '\x00' && p != 'i' && p != 'k'

theorem ofNat_ne_own {p : Char} (own : isOwnLetter p) {n : Nat} (high : 128 ≤ n) :
    Char.ofNat n ≠ p := by
  simp only [isOwnLetter, Bool.and_eq_true, decide_eq_true_eq, bne_iff_ne] at own
  obtain ⟨⟨⟨low, zero⟩, _⟩, _⟩ := own
  rintro rfl
  by_cases valid : n.isValidChar
  · rw [Char.ofNat, dif_pos valid] at low
    have same : (Char.ofNatAux n valid).toNat = n := rfl
    omega
  · refine zero ?_
    rw [Char.ofNat, dif_neg valid]
    rfl

/-- What holds of a character alone and of every entry of a case table holds of the case of the
character. -/
theorem mapCase_cases {Q : List Char → Prop} {runs : List (Nat × Nat × Nat × Nat)}
    {expansions : List (Nat × List Nat)} {c : Char} (own : Q [c])
    (expanded : ∀ e ∈ expansions, Q (e.2.map Char.ofNat))
    (images : ∀ run ∈ runs, ∀ k ∈ List.range (run.2.1 - run.1 + 1),
      Q [Char.ofNat (run.2.2.2 + k)]) : Q (mapCase runs expansions c) := by
  simp only [mapCase]
  split
  · rename_i n cs found
    exact expanded _ (List.mem_of_find?_eq_some found)
  · split
    · rename_i first last stride image found
      have within := List.find?_some found
      simp only [Bool.and_eq_true, decide_eq_true_eq] at within
      exact images _ (List.mem_of_find?_eq_some found) _
        (List.mem_range.mpr (by dsimp only; omega))
    · exact own

/-- The lowercase of a character beyond the basic ones has no such letter in it. -/
theorem not_mem_mapCase_lower {c p : Char} (own : isOwnLetter p) (high : 128 ≤ c.toNat) :
    p ∉ mapCase lowerRuns lowerExpansions c := by
  have expanded : ∀ e ∈ lowerExpansions, e.2.map Char.ofNat = ['i', '\u0307'] := by
    decide +kernel
  have images : ∀ run ∈ lowerRuns, 128 ≤ run.2.2.2 ∨ run = (0x212a, 0x212a, 1, 0x6b) := by
    decide +kernel
  have low : p.toNat < 128 ∧ p ≠ 'i' ∧ p ≠ 'k' := by
    simp only [isOwnLetter, Bool.and_eq_true, decide_eq_true_eq, bne_iff_ne] at own
    exact ⟨own.1.1.1, own.1.2, own.2⟩
  refine mapCase_cases (Q := fun cs => p ∉ cs) ?_ ?_ ?_
  · rw [List.mem_singleton]
    rintro rfl
    omega
  · intro e he
    rw [expanded e he, List.mem_cons, List.mem_singleton, not_or]
    refine ⟨low.2.1, ?_⟩
    rintro rfl
    exact absurd low.1 (by decide)
  · intro run hrun k hk
    rw [List.mem_singleton]
    rcases images run hrun with above | rfl
    · exact (ofNat_ne_own own (Nat.le_trans above (Nat.le_add_right _ _))).symm
    · have first : k = 0 := by simpa using hk
      rw [first]
      exact low.2.2

theorem mapCase_lower_ne_nil (c : Char) : mapCase lowerRuns lowerExpansions c ≠ [] :=
  mapCase_cases (Q := fun cs => cs ≠ []) (List.cons_ne_nil _ _) (by decide +kernel)
    fun _ _ _ _ => List.cons_ne_nil _ _

/-- A text whose lowercase begins with such a letter begins with the letter in some case. -/
theorem lowerFrom_head {before cs tail : List Char} {p : Char} (own : isOwnLetter p)
    (h : lowerFrom before cs = p :: tail) : ∃ c rest, cs = c :: rest ∧ c.toNat < 128 ∧
      c.toLower = p ∧ tail = lowerFrom (c :: before) rest := by
  cases cs with
  | nil => cases h
  | cons c rest =>
      rw [lowerFrom] at h
      by_cases basic : c.toNat < 128
      · have sigma : c ≠ 'Σ' := by
          rintro rfl
          exact absurd basic (by decide)
        rw [if_neg sigma, lowerChar, if_pos basic, List.cons_append, List.nil_append,
          List.cons.injEq] at h
        exact ⟨c, rest, rfl, basic, h.1, h.2.symm⟩
      · exfalso
        by_cases sigma : c = 'Σ'
        · rw [if_pos sigma, List.cons_append, List.cons.injEq] at h
          have final : (if casedNext before && !casedNext rest then 'ς' else 'σ').toNat < 128 := by
            rw [h.1]
            simp only [isOwnLetter, Bool.and_eq_true, decide_eq_true_eq] at own
            exact own.1.1.1
          split at final <;> exact absurd final (by decide)
        · rw [if_neg sigma, lowerChar, if_neg basic] at h
          have high : 128 ≤ c.toNat := by omega
          obtain ⟨d, others, image⟩ := List.exists_cons_of_ne_nil (mapCase_lower_ne_nil c)
          rw [image, List.cons_append, List.cons.injEq] at h
          refine not_mem_mapCase_lower own high ?_
          rw [image, h.1]
          exact List.mem_cons_self

theorem lower_ne_nil {cs : List Char} (h : cs ≠ []) : lower cs ≠ [] := by
  cases cs with
  | nil => exact absurd rfl h
  | cons c rest =>
      rw [lower, lowerFrom]
      refine List.append_ne_nil_of_left_ne_nil ?_ _
      by_cases sigma : c = 'Σ'
      · rw [if_pos sigma]
        exact List.cons_ne_nil _ _
      · rw [if_neg sigma, lowerChar]
        by_cases basic : c.toNat < 128
        · rw [if_pos basic]
          exact List.cons_ne_nil _ _
        · rw [if_neg basic]
          exact mapCase_lower_ne_nil c

/-! ## Capitals -/

theorem all_isBlank_singleton {c : Char} (h : isBlank c = false) : [c].all isBlank = false := by
  rw [List.all_cons, h, Bool.false_and]

/-- The capital of a character beyond the basic ones shows. -/
theorem mapCase_upper_shown {c : Char} (shown : isBlank c = false) :
    (mapCase upperRuns upperExpansions c).all isBlank = false :=
  mapCase_cases (Q := fun cs => cs.all isBlank = false) (all_isBlank_singleton shown)
    (by decide +kernel) (by decide +kernel)

theorem upperChar_shown {c : Char} (shown : isBlank c = false) :
    (upperChar c).all isBlank = false := by
  rw [upperChar]
  by_cases basic : c.toNat < 128
  · have letters : ∀ n < 128, isBlank (Char.ofNat n) = false →
        isBlank (Char.ofNat n).toUpper = false := by
      decide
    rw [if_pos basic]
    rw [← Char.ofNat_toNat c] at shown ⊢
    exact all_isBlank_singleton (letters c.toNat basic shown)
  · rw [if_neg basic]
    exact mapCase_upper_shown shown

/-- A text that shows still does when its words are capitalised. -/
theorem titleCase_shown {cs : List Char} (h : cs.all isBlank = false) :
    (titleCase cs).all isBlank = false := by
  have words (inWord : Bool) : (titleCaseFrom inWord cs).all isBlank = false := by
    induction cs generalizing inWord with
    | nil => cases h
    | cons c rest ih =>
        rw [titleCaseFrom, List.all_append, Bool.and_eq_false_iff]
        cases blank : isBlank c with
        | true =>
            rw [List.all_cons, blank, Bool.true_and] at h
            exact .inr (ih h (isWord c))
        | false =>
            refine .inl ?_
            split
            · exact upperChar_shown blank
            · exact all_isBlank_singleton blank
  exact words false

end PromptForm.Text
