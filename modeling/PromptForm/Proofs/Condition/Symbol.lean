import PromptForm.Proofs.Condition.Split
import PromptForm.Proofs.Text.Search

/-! # Comparisons that are read

A comparison that is written with the sign of an operator is read as it is written, with the whole
value behind the sign, if no operator is in its reference. With a negated sign it is not read. The
word for equality can be in the value: in the lowercase it can only stand further to the right, so the
sign is found first.
-/

namespace PromptForm

namespace Expression

open Text

/-- White space between two parts of a comparison. -/
structure IsGap (gap : List Char) : Prop where
  filled : gap ≠ []
  blank : ∀ c ∈ gap, isBlank c = true

/-- A reference in which there is no operator. -/
structure IsReference (reference : List Char) : Prop where
  filled : reference ≠ []
  neat : trim reference = reference
  plain : ∀ c ∈ reference, isSign c = false
  wordless : ∀ front word rest, reference = front ++ (word ++ rest) → ¬ IsEquals front word rest

/-- A text that stands for a value, with no more characters than a whole number may have digits. -/
structure IsValue (raw : List Char) : Prop where
  neat : trim raw = raw
  short : raw.length ≤ Numeral.maxDigits
  kept : valueOf raw ≠ .ok (.text "")

/-! ## Words in front of a sign -/

/-- The word for equality begins nowhere in a text before its place `n` or there. -/
def WordlessTo (n : Nat) (t : List Char) : Prop :=
  ∀ front word rest, t = front ++ (word ++ rest) → IsEquals front word rest → n < front.length

theorem IsEquals.not_mem {front word rest : List Char} (h : IsEquals front word rest) {c : Char}
    (other : c.toLower ∉ equalsWord) : c ∉ word :=
  fun hc => other (h.letters.1 ▸ List.mem_map_of_mem hc)

theorem IsEquals.exists_cons {front word rest : List Char} (h : IsEquals front word rest) :
    ∃ c letters, word = c :: letters ∧ isBlank c = false := by
  cases word with
  | nil => cases h.length
  | cons c letters => exact ⟨c, letters, rfl, (h.plain List.mem_cons_self).1⟩

/-- The word for equality does not stand in front of the sign of a comparison. -/
theorem IsReference.wordlessTo {reference gap after : List Char} {x : Char}
    (named : IsReference reference) (between : IsGap gap) (other : x.toLower ∉ equalsWord) :
    WordlessTo (reference ++ gap).length (reference ++ gap ++ x :: after) := by
  intro front word rest split equals
  by_contra far
  obtain ⟨inside, stem, rfl⟩ := ends_before (equals.not_mem other) (not_lt.mp far) split
  obtain ⟨c, letters, word_eq, shown⟩ := equals.exists_cons
  rcases List.append_eq_append_iff.mp stem with ⟨passed, _, in_gap⟩ | ⟨tail, whole, in_tail⟩
  -- the word begins in the white space
  · have blank : isBlank c = true := by
      refine between.blank c ?_
      rw [in_gap, word_eq]
      exact List.mem_append_right passed List.mem_cons_self
    rw [shown] at blank
    cases blank
  -- the word begins in the reference
  · obtain ⟨b, gap, rfl⟩ := List.exists_cons_of_ne_nil between.filled
    have blank : isBlank b = true := between.blank b List.mem_cons_self
    have outside : b ∉ word := fun hb => by
      rw [(equals.plain hb).1] at blank
      cases blank
    have near : front.length ≤ reference.length := by
      rw [whole, List.length_append]
      exact Nat.le_add_right _ _
    obtain ⟨rest, split', rfl⟩ := ends_before outside near stem
    refine named.wordless front word rest split' ⟨equals.word, equals.before, ?_⟩
    cases rest with
    | nil => rfl
    | cons d rest => exact equals.behind

/-! ## The scan of a comparison -/

/-- No letter of the word for equality is the first character of a sign. -/
theorem exists_first {sign : List Char} (listed : sign ∈ signs.map Prod.fst ∨ sign ∈ negatedSigns) :
    ∃ x rest, sign = x :: rest ∧ x.toLower ∉ equalsWord := by
  have first : ∀ sign ∈ signs.map Prod.fst ++ negatedSigns,
      sign.head?.any (fun x => !equalsWord.contains x.toLower) = true := by
    decide
  have here := first sign (List.mem_append.mpr listed)
  cases sign with
  | nil => cases here
  | cons x rest => exact ⟨x, rest, rfl, by simpa using here⟩

theorem Position.wordless {t front lowered cs : List Char} {before : Option Char}
    (h : Position t front before lowered cs) (wordless : WordlessTo front.length t) :
    equalsAt before lowered = false := by
  by_contra found
  obtain ⟨passed, word, rest, split, equals, places⟩ := h.exists_word (eq_true_of_ne_false found)
  have further := wordless passed word rest split equals
  omega

/-- Plain characters without the word for equality in them are passed. -/
theorem scan_front {t passed front lowered cs : List Char} {before : Option Char}
    (position : Position t front before lowered (passed ++ cs))
    (wordless : WordlessTo (front.length + passed.length) t)
    (plain : ∀ c ∈ passed, isSign c = false) (ends : passed.getLast? ≠ some '!') :
    ∃ before' lowered', Position t (passed.reverse ++ front) before' lowered' cs ∧
      scan front before lowered (passed ++ cs) =
        scan (passed.reverse ++ front) before' lowered' cs := by
  induction passed generalizing front before lowered with
  | nil => exact ⟨before, lowered, position, rfl⟩
  | cons c passed ih =>
      obtain ⟨here, others⟩ := List.forall_mem_cons.mp plain
      have quiet : equalsAt before lowered = false := by
        refine position.wordless fun front' word rest split equals => ?_
        have further := wordless front' word rest split equals
        omega
      have places : (c :: front).length + passed.length = front.length + (c :: passed).length := by
        rw [List.length_cons, List.length_cons]
        omega
      have later : WordlessTo ((c :: front).length + passed.length) t := places ▸ wordless
      rw [List.cons_append, scan_pass quiet here (unmarked_of_ends others ends cs),
        List.reverse_cons, List.append_assoc]
      exact ih position.next later others (getLast?_of_cons ends)

/-- A sign in front of white space is not the beginning of another one. -/
theorem scan_sign {sign after front lowered : List Char} {before : Option Char} {b : Char}
    {operator : Operator} (listed : (sign, operator) ∈ signs) (blank : isBlank b = true)
    (wordless : equalsAt before lowered = false) :
    scan front before lowered (sign ++ b :: after) =
      between? front.reverse operator (b :: after) := by
  have equal : '=' ≠ b := by rintro rfl; cases blank
  have greater : '>' ≠ b := by rintro rfl; cases blank
  have exclaimed : '!' ≠ b := by rintro rfl; cases blank
  simp only [signs, List.mem_cons, Prod.mk.injEq, List.not_mem_nil, or_false] at listed
  rcases listed with ⟨rfl, rfl⟩ | ⟨rfl, rfl⟩ | ⟨rfl, rfl⟩ | ⟨rfl, rfl⟩ | ⟨rfl, rfl⟩ | ⟨rfl, rfl⟩ |
      ⟨rfl, rfl⟩ | ⟨rfl, rfl⟩ <;>
    simp [scan, wordless, negatedSigns, List.isPrefixOf_cons_cons, signAt?, signs, dropPrefix?,
      equal, greater, exclaimed]

theorem scan_negated {sign after front lowered : List Char} {before : Option Char}
    (listed : sign ∈ negatedSigns) (wordless : equalsAt before lowered = false) :
    scan front before lowered (sign ++ after) = .ok none := by
  have begins : (negatedSigns.any fun s => s.isPrefixOf (sign ++ after)) = true := by
    refine List.any_eq_true.mpr ⟨sign, listed, ?_⟩
    exact List.isPrefixOf_iff_prefix.mpr (List.prefix_append sign after)
  cases split : sign ++ after with
  | nil =>
      rw [split] at begins
      cases begins
  | cons c rest =>
      rw [split] at begins
      rw [scan, wordless, begins]
      rfl

/-! ## Values -/

theorem splitSign_length_le (cs : List Char) : (Numeral.splitSign cs).2.length ≤ cs.length := by
  simp only [Numeral.splitSign]
  split
  · exact Nat.le_succ _
  · exact Nat.le_succ _
  · exact Nat.le_refl _

/-- A number is not longer than its text, so a short text has a value. -/
theorem valueOf_short {raw : List Char} (short : raw.length ≤ Numeral.maxDigits) :
    ∃ value, valueOf raw = .ok value := by
  have digits : (Numeral.splitSign (bareValue raw)).2.length ≤ raw.length :=
    calc (Numeral.splitSign (bareValue raw)).2.length
        ≤ (bareValue raw).length := splitSign_length_le _
      _ ≤ (stripWhere isQuote (trim raw)).length := (stripWhere_sublist isBlank _).length_le
      _ ≤ (trim raw).length := (stripWhere_sublist isQuote _).length_le
      _ ≤ raw.length := (stripWhere_sublist isBlank raw).length_le
  have few : ¬ Numeral.maxDigits < (Numeral.splitSign (bareValue raw)).2.length := by omega
  simp only [valueOf, Numeral.readDigits, if_neg few]
  split
  · exact ⟨_, rfl⟩
  · split <;> exact ⟨_, rfl⟩

theorem IsValue.filled {raw : List Char} (h : IsValue raw) : raw ≠ [] := by
  rintro rfl
  exact h.kept rfl

/-! ## Comparisons -/

section Comparison

variable {lead reference gap value trail : List Char}

/-- The scan of a comparison comes to its sign, whatever follows it. -/
theorem parse?_eq_scan (named : IsReference reference) (between : IsGap gap) (given : IsValue value)
    (around : ∀ c ∈ lead ++ trail, isBlank c = true) {sign : List Char}
    (listed : sign ∈ signs.map Prod.fst ∨ sign ∈ negatedSigns) (gap' : List Char) :
    ∃ before lowered, equalsAt before lowered = false ∧
      parse? (lead ++ (reference ++ gap ++ (sign ++ (gap' ++ value)) ++ trail)) =
        scan (reference ++ gap).reverse before lowered (sign ++ (gap' ++ value)) := by
  obtain ⟨in_lead, in_trail⟩ := List.forall_mem_append.mp around
  obtain ⟨x, sign, rfl, other⟩ := exists_first listed
  have neat : trim (reference ++ gap ++ (x :: sign ++ (gap' ++ value))) =
      reference ++ gap ++ (x :: sign ++ (gap' ++ value)) := by
    have regroup : reference ++ gap ++ (x :: sign ++ (gap' ++ value)) =
        reference ++ (gap ++ (x :: sign ++ gap') ++ value) := by
      simp
    rw [regroup]
    exact trim_between named.neat named.filled given.neat given.filled _
  have plain : ∀ c ∈ reference ++ gap, isSign c = false := by
    refine List.forall_mem_append.mpr ⟨named.plain, fun c hc => ?_⟩
    exact isSign_of_blank (between.blank c hc)
  have ends : (reference ++ gap).getLast? ≠ some '!' := by
    rw [List.getLast?_append_of_ne_nil reference between.filled]
    intro last
    cases between.blank '!' (List.mem_of_getLast? last)
  have wordless : WordlessTo (reference ++ gap).length
      (reference ++ gap ++ (x :: sign ++ (gap' ++ value))) := named.wordlessTo between other
  obtain ⟨before, lowered, position, passed⟩ :=
    scan_front (Position.start _) (by rwa [List.length_nil, Nat.zero_add]) plain ends
  rw [List.append_nil] at position passed
  refine ⟨before, lowered, position.wordless ?_, ?_⟩
  · rwa [List.length_reverse]
  · rw [parse?, trim_padded in_lead in_trail, neat]
    exact passed

theorem between?_comparison {gap' : List Char} {v : Scalar} (named : IsReference reference)
    (before : IsGap gap) (behind : IsGap gap') (given : IsValue value)
    (read : valueOf value = .ok v) (operator : Operator) :
    between? (reference ++ gap) operator (gap' ++ value) =
      .ok (some ⟨String.ofList reference, operator, v⟩) := by
  have front : trim (reference ++ gap) = reference := by
    have padded := trim_padded (List.forall_mem_nil _) before.blank reference
    rwa [List.nil_append, named.neat] at padded
  have after : valueOf (gap' ++ value) = .ok v := by
    have padded := trim_padded behind.blank (List.forall_mem_nil _) value
    rw [List.append_nil] at padded
    rw [← valueOf_trim, padded, valueOf_trim, read]
  have kept : v ≠ .text "" := by
    rintro rfl
    exact given.kept read
  have shown : trim (reference ++ gap) ≠ [] := by
    rw [front]
    exact named.filled
  have found := between?_of_valueOf shown after kept operator
  rwa [front] at found

/-- A comparison with the sign of an operator is read with its reference and its value, whatever
operators are in the value. A comparison with a negated sign is not read. -/
theorem parse?_comparison {gap' : List Char} (named : IsReference reference) (before : IsGap gap)
    (behind : IsGap gap') (given : IsValue value)
    (around : ∀ c ∈ lead ++ trail, isBlank c = true) :
    ∃ v, valueOf value = .ok v ∧
      (∀ sign operator, (sign, operator) ∈ signs →
        parse? (lead ++ (reference ++ gap ++ (sign ++ (gap' ++ value)) ++ trail)) =
          .ok (some ⟨String.ofList reference, operator, v⟩)) ∧
      ∀ sign ∈ negatedSigns,
        parse? (lead ++ (reference ++ gap ++ (sign ++ (gap' ++ value)) ++ trail)) = .ok none := by
  obtain ⟨v, read⟩ := valueOf_short given.short
  refine ⟨v, read, fun sign operator listed => ?_, fun sign listed => ?_⟩
  · obtain ⟨last, lowered, wordless, whole⟩ :=
      parse?_eq_scan named before given around (.inl (List.mem_map_of_mem listed)) gap'
    have found := between?_comparison named before behind given read operator
    obtain ⟨b, gap', rfl⟩ := List.exists_cons_of_ne_nil behind.filled
    rw [whole, List.cons_append, scan_sign listed (behind.blank b List.mem_cons_self) wordless,
      List.reverse_reverse]
    exact found
  · obtain ⟨last, lowered, wordless, whole⟩ :=
      parse?_eq_scan named before given around (.inr listed) gap'
    rw [whole]
    exact scan_negated listed wordless

theorem parse?_comparison_izmir :
    parse? " İzmir\t<  = equals 3 ".toList =
        .ok (some ⟨"İzmir", .lessThan, .text "= equals 3"⟩) ∧
      parse? " İzmir\t<>  = equals 3 ".toList = .ok none := by
  have named : IsReference "İzmir".toList := by
    refine ⟨by decide, by decide, forall_of_all (by decide), fun front word rest split equals => ?_⟩
    have letters : word.length = 6 := equals.length
    have places : 5 = (front ++ (word ++ rest)).length := congrArg List.length split
    rw [List.length_append, List.length_append] at places
    omega
  have before : IsGap ['\t'] := ⟨by decide, List.all_eq_true.mp (by decide)⟩
  have behind : IsGap [' ', ' '] := ⟨by decide, List.all_eq_true.mp (by decide)⟩
  have text : valueOf "= equals 3".toList = .ok (.text "= equals 3") := by rfl
  have given : IsValue "= equals 3".toList :=
    ⟨by decide, by decide, by rw [text]; simp⟩
  have around : ∀ c ∈ [' '] ++ [' '], isBlank c = true := List.all_eq_true.mp (by decide)
  obtain ⟨v, read, signed, negated⟩ := parse?_comparison named before behind given around
  rw [text] at read
  cases read
  have less : " İzmir\t<  = equals 3 ".toList = [' '] ++ ("İzmir".toList ++ ['\t'] ++
      (['<'] ++ ([' ', ' '] ++ "= equals 3".toList)) ++ [' ']) := by
    decide
  have unequal : " İzmir\t<>  = equals 3 ".toList = [' '] ++ ("İzmir".toList ++ ['\t'] ++
      (['<', '>'] ++ ([' ', ' '] ++ "= equals 3".toList)) ++ [' ']) := by
    decide
  rw [less, unequal, signed ['<'] .lessThan (by decide), String.ofList_toList]
  exact ⟨rfl, negated ['<', '>'] (by decide)⟩

end Comparison

end Expression

end PromptForm
