import PromptForm.Proofs.Text.Blank

/-! # Names of kinds

A kind is found under its name, and its name is its own slug. The type of a field, whether it is the
name of a kind or the slug of an unknown one, begins with a basic letter or a digit.
-/

namespace PromptForm

namespace Kind

theorem ofName?_name (kind : Kind) : ofName? kind.name = some kind := by
  cases kind <;> decide +kernel

theorem slugOf_name (kind : Kind) : slugOf (.text kind.name) = kind.name := by
  cases kind <;> decide +kernel

theorem nameOf_name (kind : Kind) : nameOf (.text kind.name) = kind.name := by
  have filled : kind.name.isEmpty = false := by
    cases kind <;> decide +kernel
  simp [nameOf, resolve?, slugOf_name, ofName?_name, filled]

end Kind

open Text

/-- A text that begins with a basic letter or a digit. -/
def StartsLikeSlug (s : String) : Prop := ∃ c rest, s.toList = c :: rest ∧ isSlugChar c

theorem startsLikeSlug_slugged {s : String} (h : (slugged s).isEmpty = false) :
    StartsLikeSlug (slugged s) := by
  cases slug : (slugged s).toList with
  | nil =>
      have empty : (slugged s).isEmpty = true := by
        rw [String.isEmpty_iff, ← String.toList_eq_nil_iff, slug]
      rw [empty] at h
      cases h
  | cons c rest =>
      refine ⟨c, rest, slug, ?_⟩
      rw [slugged, onText, String.toList_ofList, Text.slug] at slug
      exact slugFrom_head slug

theorem Kind.startsLikeSlug_name (kind : Kind) : StartsLikeSlug kind.name := by
  have first : kind.name.toList.head?.any isSlugChar = true := by
    cases kind <;> decide +kernel
  cases name : kind.name.toList with
  | nil =>
      rw [name] at first
      cases first
  | cons c rest =>
      rw [name] at first
      exact ⟨c, rest, name, first⟩

theorem Kind.startsLikeSlug_nameOf (raw : Json) : StartsLikeSlug (Kind.nameOf raw) := by
  simp only [Kind.nameOf]
  split
  · exact Kind.startsLikeSlug_name _
  · split
    · exact Kind.startsLikeSlug_name _
    · rename_i kept
      simp only [Kind.slugOf] at kept ⊢
      split at kept
      · rename_i counts
        rw [if_pos counts]
        exact startsLikeSlug_slugged (eq_false_of_ne_true kept)
      · exact absurd rfl kept

end PromptForm
