import Mathlib.Data.List.DropRight
import PromptForm.Condition.Reference
import PromptForm.Proofs.Condition.Expression

/-! # Equalities that read back

An equality is read back as it was written if its reference has no sign of an operator and the word
for equality is nowhere in it. White space around the reference makes no difference to its keys.
-/

namespace PromptForm

namespace Text

theorem dropEndWhile_dropEndWhile (p : Char → Bool) (cs : List Char) :
    dropEndWhile p (dropEndWhile p cs) = dropEndWhile p cs := by
  simp only [dropEndWhile, List.reverse_reverse, List.dropWhile_idempotent]

/-- White space around a text is all that trimming takes away, so it does not matter to it. -/
theorem trim_dropWhile_append (cs : List Char) :
    trim (trim ((cs ++ [' ']).dropWhile isBlank)) = trim cs := by
  cases blank : cs.all isBlank with
  | true =>
      have all_blank : ∀ c ∈ cs, isBlank c = true := List.all_eq_true.mp blank
      have before : cs.dropWhile isBlank = [] := List.dropWhile_eq_nil_iff.mpr all_blank
      have after : (cs ++ [' ']).dropWhile isBlank = [] :=
        List.dropWhile_eq_nil_iff.mpr (List.forall_mem_append.mpr
          ⟨all_blank, List.forall_mem_singleton.mpr (by decide)⟩)
      rw [after]
      simp only [trim, stripWhere, before, List.dropWhile_nil]
      rfl
  | false =>
      obtain ⟨x, hx, shown⟩ := List.all_eq_false.mp blank
      have keep : isBlank x = false := eq_false_of_ne_true shown
      obtain ⟨front, rest, rfl⟩ := List.append_of_mem hx
      have ends : dropEndWhile isBlank (rest ++ [' ']) = dropEndWhile isBlank rest := by
        have space : isBlank ' ' = true := by decide
        rw [dropEndWhile, List.reverse_append, List.reverse_singleton, List.singleton_append,
          List.dropWhile_cons_of_pos space, dropEndWhile]
      rw [List.append_assoc, List.cons_append, dropWhile_past keep]
      simp only [trim, stripWhere_past keep, List.dropWhile_idempotent, dropEndWhile_dropEndWhile,
        ends]

end Text

/-- White space around a label makes no difference to its keys. -/
theorem referenceKeys_congr {s t : String} (h : Text.trim s.toList = Text.trim t.toList) :
    referenceKeys s = referenceKeys t := by
  rw [referenceKeys, referenceKeys, onText, onText, h]

namespace Expression

open Text

/-- A character with which the sign of an operator begins. -/
def isSign (c : Char) : Bool := c == '<' || c == '>' || c == '=' || c == '≤' || c == '≥'

theorem isSign_of_blank {c : Char} (blank : isBlank c = true) : isSign c = false := by
  by_contra sign
  simp only [isSign, Bool.not_eq_false, Bool.or_eq_true, beq_iff_eq] at sign
  rcases sign with (((rfl | rfl) | rfl) | rfl) | rfl <;> cases blank

theorem valueOf_trim (cs : List Char) : valueOf (trim cs) = valueOf cs := by
  rw [valueOf, valueOf, bareValue, bareValue, trim_trim]

theorem signAt?_eq_none {c : Char} (plain : isSign c = false) (rest : List Char) :
    signAt? (c :: rest) = none := by
  simp only [isSign, Bool.or_eq_false_iff, beq_eq_false_iff_ne] at plain
  obtain ⟨⟨⟨⟨less, greater⟩, equal⟩, most⟩, least⟩ := plain
  simp [signAt?, signs, dropPrefix?, less.symm, greater.symm, equal.symm, most.symm, least.symm]

theorem equalsAt_eq_false {lowered : List Char} (wordless : ¬ equalsWord <:+: lowered)
    (before : Option Char) : equalsAt before lowered = false := by
  rw [equalsAt]
  split
  · rename_i after dropped
    have begins : equalsWord <+: lowered := ⟨after, (dropPrefix?_eq_some.mp dropped).symm⟩
    exact absurd begins.isInfix wordless
  · rfl

/-- No negated sign begins with a character with which no sign of an operator begins, but for an
exclamation mark in front of an equals sign. -/
theorem not_negated {c : Char} {rest : List Char} (plain : isSign c = false)
    (unmarked : c = '!' → rest.head? ≠ some '=') :
    (negatedSigns.any fun sign => sign.isPrefixOf (c :: rest)) = false := by
  have unlike : '<' ≠ c ∧ '=' ≠ c := by
    constructor <;> rintro rfl <;> cases plain
  have marked : ['!', '='].isPrefixOf (c :: rest) = false := by
    cases rest with
    | nil => simp [List.isPrefixOf_cons_cons]
    | cons d rest =>
        have apart : '!' = c → '=' ≠ d := by
          rintro rfl rfl
          exact unmarked rfl rfl
        simpa [List.isPrefixOf_cons_cons] using apart
  simp [negatedSigns, marked, List.isPrefixOf_cons_cons, unlike]

/-- A plain character in front of which the word for equality does not begin is passed. -/
theorem scan_pass {c : Char} {front lowered rest : List Char} {before : Option Char}
    (wordless : equalsAt before lowered = false) (plain : isSign c = false)
    (unmarked : c = '!' → rest.head? ≠ some '=') :
    scan front before lowered (c :: rest) = scan (c :: front) lowered.head? lowered.tail rest := by
  rw [scan, wordless, not_negated plain unmarked, signAt?_eq_none plain]
  rfl

/-- Only the last character of a plain text can stand in front of a sign. -/
theorem unmarked_of_ends {c : Char} {passed : List Char} (plain : ∀ d ∈ passed, isSign d = false)
    (ends : (c :: passed).getLast? ≠ some '!') (rest : List Char) :
    c = '!' → (passed ++ rest).head? ≠ some '=' := by
  rintro rfl
  cases passed with
  | nil => exact absurd rfl ends
  | cons d passed =>
      intro next
      cases next
      cases plain '=' List.mem_cons_self

theorem getLast?_of_cons {c x : Char} {cs : List Char} (h : (c :: cs).getLast? ≠ some x) :
    cs.getLast? ≠ some x := by
  cases cs with
  | nil => exact (Option.some_ne_none _).symm
  | cons d cs => rwa [List.getLast?_cons_cons] at h

/-- Without a sign or the word for equality before it, the sign of an equality is the operator. -/
theorem scan_plain {passed after front lowered : List Char} {before : Option Char}
    (plain : ∀ c ∈ passed, isSign c = false) (ends : passed.getLast? ≠ some '!')
    (wordless : ¬ equalsWord <:+: lowered) :
    scan front before lowered (passed ++ '=' :: ' ' :: after) =
      between? (front.reverse ++ passed) .equal (' ' :: after) := by
  induction passed generalizing front before lowered with
  | nil =>
      have sign : signAt? ('=' :: ' ' :: after) = some (.equal, ' ' :: after) := rfl
      have negated : (negatedSigns.any fun s => s.isPrefixOf ('=' :: ' ' :: after)) = false := rfl
      rw [List.nil_append, scan, equalsAt_eq_false wordless, negated, sign, List.append_nil]
      rfl
  | cons c passed ih =>
      obtain ⟨here, others⟩ := List.forall_mem_cons.mp plain
      have tail : ¬ equalsWord <:+: lowered.tail :=
        fun found => wordless (found.trans (List.tail_suffix lowered).isInfix)
      rw [List.cons_append,
        scan_pass (equalsAt_eq_false wordless before) here (unmarked_of_ends others ends _),
        ih others (getLast?_of_cons ends) tail, List.reverse_cons, List.append_assoc,
        List.singleton_append]

theorem between?_of_valueOf {front after : List Char} {value : Scalar} (shown : trim front ≠ [])
    (read : valueOf after = .ok value) (kept : value ≠ .text "") (operator : Operator) :
    between? front operator after = .ok (some ⟨String.ofList (trim front), operator, value⟩) := by
  have named : (trim front).isEmpty = false := List.isEmpty_eq_false_iff.mpr shown
  have filled : (trim after).isEmpty = false := by
    refine List.isEmpty_eq_false_iff.mpr fun nothing => kept ?_
    rw [← valueOf_trim, nothing] at read
    cases read
    rfl
  simp only [between?, named, filled, Bool.or_self, Bool.false_eq_true, if_false, read]

/-- A value that has a character of its own is there. -/
theorem between?_some {x : Char} (solid : isSolid x) {front after : List Char}
    (shown : trim front ≠ []) (inside : x ∈ after) (operator : Operator) :
    ∃ value, between? front operator after =
      .ok (some ⟨String.ofList (trim front), operator, value⟩) := by
  obtain ⟨value, read⟩ := valueOf_ok solid inside
  have kept : value ≠ .text "" := by
    rintro rfl
    have bare := List.ne_nil_of_mem (mem_bareValue solid inside)
    simp only [valueOf] at read
    split at read
    · split at read <;> cases read
    · split at read
      · cases read
      · simp only [Except.ok.injEq, Scalar.text.injEq] at read
        exact bare (by simpa using read)
  exact ⟨value, between?_of_valueOf shown read kept operator⟩

/-- An equality with a plain reference is read back with the keys of the reference. -/
theorem parse?_plain {x : Char} (solid : isSolid x) {label value rest : List Char}
    (plain : ∀ c ∈ label, isSign c = false) (shown : trim label ≠ [])
    (wordless : ¬ equalsWord <:+:
      lower (trim ((label ++ [' ']) ++ '=' :: ' ' :: (value ++ x :: rest)))) :
    ∃ e, parse? ((label ++ [' ']) ++ '=' :: ' ' :: (value ++ x :: rest)) = .ok (some e) ∧
      trim e.reference.toList = trim label := by
  have kept : (label ++ [' ']).dropWhile isBlank <:+ label ++ [' '] := List.dropWhile_suffix _
  have plain' : ∀ c ∈ (label ++ [' ']).dropWhile isBlank, isSign c = false := by
    intro c hc
    rcases List.mem_append.mp (kept.subset hc) with hc | hc
    · exact plain c hc
    · rw [List.mem_singleton.mp hc]
      decide
  have ends : ((label ++ [' ']).dropWhile isBlank).getLast? ≠ some '!' := by
    intro last
    obtain ⟨front, split⟩ := List.getLast?_eq_some_iff.mp last
    obtain ⟨passed, whole⟩ := kept
    rw [split, ← List.append_assoc] at whole
    cases (List.append_inj' whole rfl).2
  have reference : trim ((label ++ [' ']).dropWhile isBlank) ≠ [] := by
    intro none_left
    have same := trim_dropWhile_append label
    rw [none_left] at same
    exact shown same.symm
  have inside : x ∈ ' ' :: (value ++ x :: dropEndWhile isBlank rest) := by simp
  obtain ⟨found, read⟩ := between?_some solid reference inside .equal
  rw [trim_equality solid] at wordless
  refine ⟨⟨String.ofList (trim ((label ++ [' ']).dropWhile isBlank)), .equal, found⟩, ?_, ?_⟩
  · rw [parse?, trim_equality solid, scan_plain plain' ends wordless]
    exact read
  · rw [String.toList_ofList]
    exact trim_dropWhile_append label

end Expression

end PromptForm
