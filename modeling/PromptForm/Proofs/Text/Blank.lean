import PromptForm.Field.Kind
import PromptForm.Proofs.Text.Line

/-! # Texts that are not blank

A trimmed text is empty or not blank, and so is what slugs and the words of slugs become. Trimming a
text again changes nothing.
-/

namespace PromptForm.Text

theorem dropWhile_eq_nil {p : Char → Bool} {cs : List Char} (h : (cs.dropWhile p).all p) :
    cs.dropWhile p = [] := by
  induction cs with
  | nil => rfl
  | cons c rest ih =>
      cases hc : p c with
      | true =>
          rw [List.dropWhile_cons_of_pos hc] at h ⊢
          exact ih h
      | false =>
          rw [List.dropWhile_cons_of_neg (ne_true_of_eq_false hc), List.all_cons, hc] at h
          cases h

theorem trim_of_blank {cs : List Char} (h : (trim cs).all isBlank) : trim cs = [] := by
  rw [trim, stripWhere, dropEndWhile, List.all_reverse] at h
  rw [trim, stripWhere, dropEndWhile, dropWhile_eq_nil h]
  rfl

theorem all_of_trim {cs : List Char} (h : trim cs = []) : cs.all isBlank = true := by
  rw [trim, stripWhere, dropEndWhile, List.reverse_eq_nil_iff, List.dropWhile_eq_nil_iff] at h
  have nothing : cs.dropWhile isBlank = [] :=
    dropWhile_eq_nil (List.all_eq_true.mpr fun c hc => h c (List.mem_reverse.mpr hc))
  exact List.all_eq_true.mpr (List.dropWhile_eq_nil_iff.mp nothing)

/-- A slug begins with a basic letter or a digit. -/
theorem slugFrom_head {pending : Bool} {cs rest : List Char} {c : Char}
    (h : slugFrom false pending cs = c :: rest) : isSlugChar c := by
  induction cs generalizing pending with
  | nil => cases h
  | cons d cs ih =>
      cases hd : isSlugChar d with
      | true =>
          simp only [slugFrom, hd, if_true, Bool.false_and, Bool.false_eq_true, if_false,
            List.cons.injEq] at h
          rw [← h.1]
          exact hd
      | false =>
          simp only [slugFrom, hd, Bool.false_eq_true, if_false] at h
          exact ih h

end PromptForm.Text

namespace PromptForm

open Text

theorem isBlankText_trimmed {s : String} (h : (trimmed s).isEmpty = false) :
    isBlankText (trimmed s) = false := by
  cases blank : isBlankText (trimmed s) with
  | false => rfl
  | true =>
      rw [isBlankText, trimmed, onText, String.toList_ofList] at blank
      rw [trimmed, onText, trim_of_blank blank] at h
      cases h

/-- A text that is not blank has something left when it is trimmed. -/
theorem trimmed?_of_shown {s : String} (shown : isBlankText s = false) :
    trimmed? s = some (trimmed s) := by
  cases empty : (trimmed s).isEmpty with
  | false => simp [trimmed?, nonEmpty?, empty]
  | true =>
      rw [String.isEmpty_iff, ← String.toList_eq_nil_iff, trimmed, onText,
        String.toList_ofList] at empty
      rw [isBlankText, all_of_trim empty] at shown
      cases shown

theorem trimmed?_eq_some {s shown : String} (h : trimmed? s = some shown) : shown = trimmed s := by
  simp only [trimmed?, nonEmpty?] at h
  split at h
  · cases h
  · exact (Option.some.inj h).symm

theorem trimmed_trimmed (s : String) : trimmed (trimmed s) = trimmed s := by
  simp only [trimmed, onText, String.toList_ofList, Text.trim_trim]

theorem trimmed?_trimmed (s : String) : trimmed? (trimmed s) = trimmed? s := by
  rw [trimmed?, trimmed_trimmed, trimmed?]

theorem isEmpty_of_trimmed? {s : String} (h : trimmed? s = some (trimmed s)) :
    s.isEmpty = false ∧ (trimmed s).isEmpty = false := by
  have short : (trimmed s).isEmpty = false := by
    cases empty : (trimmed s).isEmpty with
    | false => rfl
    | true => simp [trimmed?, nonEmpty?, empty] at h
  refine ⟨?_, short⟩
  cases empty : s.isEmpty with
  | false => rfl
  | true =>
      rw [String.isEmpty_iff.mp empty] at short
      cases short

theorem trimmed?_getD (s : String) : (trimmed? s).getD "" = trimmed s := by
  cases empty : (trimmed s).isEmpty with
  | false => simp [trimmed?, nonEmpty?, empty]
  | true => simp [trimmed?, nonEmpty?, String.isEmpty_iff.mp empty]

theorem trimmed?_isSome (s : String) : (trimmed? s).isSome = !isBlankText s := by
  cases blank : isBlankText s with
  | false => simp [trimmed?_of_shown blank]
  | true =>
      have nothing : trim s.toList = [] := by
        rw [trim, stripWhere, List.dropWhile_eq_nil_iff.mpr (List.all_eq_true.mp blank)]
        rfl
      rw [trimmed?, trimmed, onText, nothing]
      rfl

/-- A text that can be shown as it is: it is not blank, and there is no white space around it. -/
structure Neat (s : String) : Prop where
  shown : isBlankText s = false
  tight : trimmed s = s

namespace Neat

variable {s : String}

theorem of_trimmed? {t : String} (h : trimmed? s = some t) : Neat t := by
  cases trimmed?_eq_some h
  exact ⟨isBlankText_trimmed (isEmpty_of_trimmed? h).2, trimmed_trimmed s⟩

theorem of_tight (tight : trimmed s = s) (filled : s.isEmpty = false) : Neat s := by
  rw [← tight] at filled
  exact ⟨tight ▸ isBlankText_trimmed filled, tight⟩

theorem trimmed?_eq (h : Neat s) : trimmed? s = some s :=
  (trimmed?_of_shown h.shown).trans (congrArg some h.tight)

theorem filled (h : Neat s) : s.isEmpty = false :=
  (isEmpty_of_trimmed? (trimmed?_of_shown h.shown)).1

end Neat

end PromptForm
