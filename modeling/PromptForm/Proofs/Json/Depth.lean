import PromptForm.Json.Depth
import PromptForm.Number.Number

/-! # How deep values are

A value that stands inside of another one has fewer levels, and putting nulls for numbers that are
not finite changes no level.
-/

namespace PromptForm.Json

theorem depth_le_depthOfItems {v : Json} {items : List Json} (h : v ∈ items) :
    v.depth ≤ depthOfItems items := by
  induction items with
  | nil => cases h
  | cons w rest ih =>
      rw [depthOfItems]
      rcases List.mem_cons.mp h with rfl | h
      · exact Nat.le_max_left _ _
      · exact Nat.le_trans (ih h) (Nat.le_max_right _ _)

theorem depth_le_depthOfEntries {entry : String × Json} {entries : Entries} (h : entry ∈ entries) :
    entry.2.depth ≤ depthOfEntries entries := by
  induction entries with
  | nil => cases h
  | cons other rest ih =>
      rw [depthOfEntries]
      rcases List.mem_cons.mp h with rfl | h
      · exact Nat.le_max_left _ _
      · exact Nat.le_trans (ih h) (Nat.le_max_right _ _)

theorem depth_lt_array {v : Json} {items : List Json} (h : v ∈ items) :
    v.depth < (array items).depth := by
  have le := depth_le_depthOfItems h
  rw [depth]
  omega

theorem depth_lt_object {entry : String × Json} {entries : Entries} (h : entry ∈ entries) :
    entry.2.depth < (object entries).depth := by
  have le := depth_le_depthOfEntries h
  rw [depth]
  omega

mutual

theorem depth_finite (v : Json) : v.finite.depth = v.depth := by
  cases v with
  | null | bool | int | text => rfl
  | double x => cases x <;> rfl
  | array items => rw [finite, depth, depth, depthOfItems_finite items]
  | object entries => rw [finite, depth, depth, depthOfEntries_finite entries]

theorem depthOfItems_finite (items : List Json) :
    depthOfItems (finiteItems items) = depthOfItems items := by
  cases items with
  | nil => rfl
  | cons v rest =>
      rw [finiteItems, depthOfItems, depthOfItems, depth_finite v, depthOfItems_finite rest]

theorem depthOfEntries_finite (entries : Entries) :
    depthOfEntries (finiteEntries entries) = depthOfEntries entries := by
  cases entries with
  | nil => rfl
  | cons entry rest =>
      obtain ⟨key, v⟩ := entry
      rw [finiteEntries, depthOfEntries, depthOfEntries, depth_finite v,
        depthOfEntries_finite rest]

end

end PromptForm.Json
