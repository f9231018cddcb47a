import PromptForm.Proofs.Text.Lower
import PromptForm.Text.Slug

/-! # Slugs of slugs

A slug is empty, or it begins with a basic letter or a digit, and every underscore stands between
two of them. Such a text is its own slug.
-/

namespace PromptForm.Text

theorem basic_of_isSlugChar {c : Char} (h : isSlugChar c = true) : c.toNat < 128 := by
  simp only [isSlugChar, Bool.or_eq_true, Bool.and_eq_true, decide_eq_true_eq, Char.le_def,
    UInt32.le_iff_toNat_le] at h
  simp only [Char.toNat]
  have z : 'z'.val.toNat = 122 := rfl
  have nine : '9'.val.toNat = 57 := rfl
  omega

/-- A basic letter or a digit is neither white space nor a capital. -/
theorem slugChar_plain {c : Char} (h : isSlugChar c = true) :
    isBlank c = false ∧ c.toLower = c :=
  forall_basic (P := fun c => isSlugChar c = true → isBlank c = false ∧ c.toLower = c) (by decide)
    (basic_of_isSlugChar h) h

/-- What may follow a character of a slug. -/
inductive SlugTail : List Char → Prop
  | nil : SlugTail []
  | next {c : Char} {rest : List Char} : isSlugChar c = true → SlugTail rest → SlugTail (c :: rest)
  | joined {c : Char} {rest : List Char} : isSlugChar c = true → SlugTail rest →
      SlugTail ('_' :: c :: rest)

theorem slugFrom_tail (pending : Bool) (cs : List Char) : SlugTail (slugFrom true pending cs) := by
  induction cs generalizing pending with
  | nil => exact .nil
  | cons c rest ih =>
      rw [slugFrom]
      split
      · rename_i kept
        split
        · exact .joined kept (ih false)
        · exact .next kept (ih false)
      · exact ih true

theorem slugFrom_shape (pending : Bool) (cs : List Char) : slugFrom false pending cs = [] ∨
    ∃ c rest, slugFrom false pending cs = c :: rest ∧ isSlugChar c = true ∧ SlugTail rest := by
  induction cs generalizing pending with
  | nil => exact .inl rfl
  | cons c rest ih =>
      rw [slugFrom]
      split
      · rename_i kept
        exact .inr ⟨c, _, rfl, kept, slugFrom_tail false rest⟩
      · exact ih true

namespace SlugTail

variable {cs : List Char}

theorem plain (h : SlugTail cs) :
    ∀ c ∈ cs, c.toNat < 128 ∧ isBlank c = false ∧ c.toLower = c := by
  have letter {c : Char} (kept : isSlugChar c = true) :=
    And.intro (basic_of_isSlugChar kept) (slugChar_plain kept)
  induction h with
  | nil => exact List.forall_mem_nil _
  | next kept _ ih => exact List.forall_mem_cons.mpr ⟨letter kept, ih⟩
  | joined kept _ ih =>
      exact List.forall_mem_cons.mpr ⟨by decide, List.forall_mem_cons.mpr ⟨letter kept, ih⟩⟩

theorem slugFrom_eq (h : SlugTail cs) : slugFrom true false cs = cs := by
  induction h with
  | nil => rfl
  | next kept _ ih => rw [slugFrom, if_pos kept, ih]; rfl
  | joined kept _ ih =>
      have skipped : isSlugChar '_' = false := by decide
      rw [slugFrom, skipped, if_neg Bool.false_ne_true, slugFrom, if_pos kept, ih]
      rfl

end SlugTail

theorem slug_slug (cs : List Char) : slug (slug cs) = slug cs := by
  have once : slug cs = slugFrom false false (lower (trim cs)) := rfl
  rw [once]
  rcases slugFrom_shape false (lower (trim cs)) with nothing | ⟨c, rest, shape, kept, tail⟩
  · rw [nothing]
    rfl
  · rw [shape]
    have plain : ∀ d ∈ c :: rest, d.toNat < 128 ∧ isBlank d = false ∧ d.toLower = d :=
      (SlugTail.next kept tail).plain
    have trimmed : trim (c :: rest) = c :: rest := trim_of_forall fun d hd => (plain d hd).2.1
    have lowered : lower (c :: rest) = c :: rest := by
      rw [lower, lowerFrom_basic fun d hd => (plain d hd).1]
      exact (List.map_congr_left fun d hd => (plain d hd).2.2).trans (List.map_id _)
    rw [slug, trimmed, lowered, slugFrom, if_pos kept, tail.slugFrom_eq]
    rfl

end PromptForm.Text

namespace PromptForm

theorem slugged_slugged (s : String) : slugged (slugged s) = slugged s := by
  simp only [slugged, onText, String.toList_ofList, Text.slug_slug]

end PromptForm
