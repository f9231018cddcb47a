import Mathlib.Data.List.Basic
import PromptForm.Condition.Expression
import PromptForm.Proofs.Text.Case
import PromptForm.Proofs.Text.Line

/-! # Expressions that can be read

Reading an expression fails only at a value that is a whole number of too many digits. The value of
an expression has no other characters than those behind the operator, so a character that no number
has keeps the expression readable if it stands far enough behind.
-/

namespace PromptForm

namespace Expression

open Text

/-- A character that is not stripped from a value and that no whole number has. -/
def isSolid (x : Char) : Bool :=
  !isBlank x && !isQuote x && !isDigit x && x != '-' && x != '+'

section Solid

variable {x : Char}

theorem not_blank (solid : isSolid x) : isBlank x = false := by
  simp only [isSolid, Bool.and_eq_true, Bool.not_eq_true'] at solid
  exact solid.1.1.1.1

/-- Trimming an equality keeps its sign and what is between the sign and such a character. -/
theorem trim_equality (solid : isSolid x) (front value rest : List Char) :
    trim (front ++ '=' :: ' ' :: (value ++ x :: rest)) =
      front.dropWhile isBlank ++ '=' :: ' ' :: (value ++ x :: dropEndWhile isBlank rest) := by
  have regroup : front ++ '=' :: ' ' :: (value ++ x :: rest) =
      (front ++ '=' :: ' ' :: value) ++ x :: rest := by simp
  rw [regroup, trim, stripWhere_past (not_blank solid), dropWhile_past (by decide)]
  simp

theorem mem_bareValue (solid : isSolid x) {raw : List Char} (h : x ∈ raw) : x ∈ bareValue raw := by
  have blank := not_blank solid
  simp only [isSolid, Bool.and_eq_true, Bool.not_eq_true'] at solid
  exact mem_stripWhere blank (mem_stripWhere solid.1.1.1.2 (mem_stripWhere blank h))

theorem mem_splitSign (solid : isSolid x) {cs : List Char} (h : x ∈ cs) :
    x ∈ (Numeral.splitSign cs).2 := by
  simp only [isSolid, Bool.and_eq_true, bne_iff_ne] at solid
  simp only [Numeral.splitSign]
  split
  · exact (List.mem_cons.mp h).resolve_left solid.1.2
  · exact (List.mem_cons.mp h).resolve_left solid.2
  · exact h

theorem valueOf_ok (solid : isSolid x) {raw : List Char} (h : x ∈ raw) :
    ∃ value, valueOf raw = .ok value := by
  have inside := mem_splitSign solid (mem_bareValue solid h)
  have digit : isDigit x = false := by
    simp only [isSolid, Bool.and_eq_true, Bool.not_eq_true'] at solid
    exact solid.1.1.2
  have other : (Numeral.splitSign (bareValue raw)).2.all isDigit = false := by
    rw [List.all_eq_false]
    exact ⟨x, inside, ne_true_of_eq_false digit⟩
  simp only [valueOf, other, Bool.and_false, Bool.false_eq_true, if_false]
  split <;> exact ⟨_, rfl⟩

theorem between?_ok (solid : isSolid x) {front after : List Char} (operator : Operator)
    (h : after = [] ∨ x ∈ after) : ∃ found, between? front operator after = .ok found := by
  simp only [between?]
  split
  · exact ⟨_, rfl⟩
  · rename_i both
    rcases h with rfl | inside
    · exact absurd (by simp [trim, stripWhere, dropEndWhile]) both
    · obtain ⟨value, read⟩ := valueOf_ok solid inside
      rw [read]
      split
      · rename_i failed
        cases failed
      · exact ⟨_, rfl⟩
      · exact ⟨_, rfl⟩

/-- An equality whose value is long enough, or ends, where such a character stands: the word for
equality does not reach beyond the character. -/
def Guarded (x : Char) (cs : List Char) : Prop :=
  ∃ front value rest, cs = front ++ '=' :: ' ' :: (value ++ x :: rest) ∧
    (4 ≤ value.length ∨ rest = [])

theorem Guarded.drop {cs : List Char} (h : Guarded x cs) {k : Nat} (short : k ≤ 6) :
    cs.drop k = [] ∨ x ∈ cs.drop k := by
  obtain ⟨front, value, rest, rfl, far⟩ := h
  have regroup : front ++ '=' :: ' ' :: (value ++ x :: rest) =
      (front ++ '=' :: ' ' :: value) ++ x :: rest := by simp
  have size : (front ++ '=' :: ' ' :: value).length = front.length + value.length + 2 := by
    simp
    omega
  rw [regroup, List.drop_append, size]
  rcases far with far | rfl
  · have none_left : k - (front.length + value.length + 2) = 0 := by omega
    rw [none_left]
    exact .inr (List.mem_append_right _ List.mem_cons_self)
  · by_cases inside : k ≤ front.length + value.length + 2
    · have none_left : k - (front.length + value.length + 2) = 0 := by omega
      rw [none_left]
      exact .inr (List.mem_append_right _ List.mem_cons_self)
    · refine .inl (List.append_eq_nil_iff.mpr ⟨?_, ?_⟩)
      · rw [List.drop_eq_nil_iff]
        omega
      · rw [List.drop_eq_nil_iff, List.length_singleton]
        omega

theorem signAt?_drop {cs after : List Char} {operator : Operator}
    (h : signAt? cs = some (operator, after)) : ∃ k, k ≤ 2 ∧ after = cs.drop k := by
  have short : ∀ sign ∈ signs, sign.1.length ≤ 2 := by decide
  obtain ⟨sign, listed, found⟩ := List.exists_of_findSome?_eq_some h
  obtain ⟨rest, dropped, same⟩ := Option.map_eq_some_iff.mp found
  cases same
  refine ⟨sign.1.length, short sign listed, ?_⟩
  rw [dropPrefix?_eq_some.mp dropped, List.drop_left]

theorem scan_ok (solid : isSolid x) {cs : List Char} (guarded : Guarded x cs) (front : List Char)
    (before : Option Char) (lowered : List Char) :
    ∃ found, scan front before lowered cs = .ok found := by
  induction cs generalizing front before lowered with
  | nil => exact ⟨none, rfl⟩
  | cons c rest ih =>
      rw [scan]
      split
      · exact between?_ok solid .equal (guarded.drop (by decide))
      · split
        · exact ⟨none, rfl⟩
        · split
          · rename_i operator after sign
            obtain ⟨k, short, rfl⟩ := signAt?_drop sign
            exact between?_ok solid operator (guarded.drop (by omega))
          · rename_i unsigned
            obtain ⟨passed, value, last, split, far⟩ := guarded
            cases passed with
            | nil =>
                rw [List.nil_append, List.cons.injEq] at split
                obtain ⟨rfl, rfl⟩ := split
                simp [signAt?, signs, dropPrefix?] at unsigned
            | cons d passed =>
                rw [List.cons_append, List.cons.injEq] at split
                exact ih ⟨passed, value, last, split.2, far⟩ _ _ _

theorem Guarded.trim (solid : isSolid x) {cs : List Char} (h : Guarded x cs) :
    Guarded x (Text.trim cs) := by
  obtain ⟨front, value, rest, rfl, far⟩ := h
  exact ⟨_, value, _, trim_equality solid front value rest,
    far.imp_right fun ends => by rw [ends]; rfl⟩

theorem parse?_ok (solid : isSolid x) {expr : List Char} (h : Guarded x expr) :
    ∃ found, parse? expr = .ok found :=
  scan_ok solid (h.trim solid) _ _ _

end Solid

/-! ## The reference of an expression -/

theorem between?_reference {front after : List Char} {operator : Operator} {e : Expression}
    (h : between? front operator after = .ok (some e)) :
    e.reference.toList = Text.trim front ∧ Text.trim front ≠ [] := by
  simp only [between?] at h
  split at h
  · cases h
  · rename_i shown
    split at h
    · cases h
    · cases h
    · cases h
      simp only [Bool.or_eq_true, List.isEmpty_iff, not_or] at shown
      exact ⟨String.toList_ofList, shown.1⟩

theorem scan_reference {front lowered cs : List Char} {before : Option Char} {e : Expression}
    (h : scan front before lowered cs = .ok (some e)) :
    ∃ passed, e.reference.toList = Text.trim passed ∧ Text.trim passed ≠ [] := by
  induction cs generalizing front before lowered with
  | nil => cases h
  | cons c cs ih =>
      rw [scan] at h
      split at h
      · exact ⟨_, between?_reference h⟩
      · split at h
        · cases h
        · split at h
          · exact ⟨_, between?_reference h⟩
          · exact ih h

/-- The reference of an expression that is read has no white space around it, and is there. -/
theorem parse?_reference {expr : List Char} {e : Expression} (h : parse? expr = .ok (some e)) :
    ∃ passed, e.reference.toList = Text.trim passed ∧ Text.trim passed ≠ [] :=
  scan_reference h

end Expression

end PromptForm
