import PromptForm.Block.Basic
import PromptForm.Proofs.Json.Depth

/-! # Blocks that can be written

A block can be written down and sent when its payload does not have too many levels. Only the
conditional logic that a prompt passes on has any number of levels.
-/

namespace PromptForm

theorem Json.holding_eq_ok_iff {levels : Nat} {parts : List Json} {v w : Json} :
    v.holding levels parts = .ok w ↔ (∀ u ∈ parts, levels + u.depth ≤ maxDepth) ∧ w = v := by
  simp only [holding, List.all_eq_true, fitsUnder, decide_eq_true_eq]
  split
  · rename_i fits
    simp only [Except.ok.injEq, @eq_comm _ v]
    exact (and_iff_right fits).symm
  · rename_i deep
    exact iff_of_false nofun fun h => deep h.1

/-- What a payload keeps as it is stands inside of it. -/
theorem Payload.depth_loose {p : Payload} {v : Json} (h : v ∈ p.body.loose) :
    v.depth < p.toJson.depth := by
  have inside (key : String) {lists : List Entries}
      (member : (key, Json.array (lists.map fun e => Json.object (Json.finiteEntries e))) ∈
        p.body.entries) (h : v ∈ lists.flatten.map (·.2)) : v.depth < p.toJson.depth := by
    obtain ⟨entry, hentry, rfl⟩ := List.mem_map.mp h
    obtain ⟨entries, hentries, hentry⟩ := List.mem_flatten.mp hentry
    have kept : (key, Json.array (lists.map fun e => Json.object (Json.finiteEntries e))) ∈
        Entries.withoutNulls
          (("conditionalLogic", (p.rule.map Rule.toJson).getD .null) :: p.body.entries) :=
      List.mem_filter.mpr ⟨List.mem_cons_of_mem _ member, rfl⟩
    calc
      entry.2.depth < (Json.object entries).depth := Json.depth_lt_object hentry
      _ = (Json.object (Json.finiteEntries entries)).depth := (Json.depth_finite _).symm
      _ < (Json.array (lists.map fun e => Json.object (Json.finiteEntries e))).depth :=
        Json.depth_lt_array (List.mem_map_of_mem hentries)
      _ < p.toJson.depth := Json.depth_lt_object kept
  cases body : p.body with
  | conditionalLogic operator conditionals actions =>
      rw [body, Body.loose, List.flatten_append, List.map_append, List.mem_append] at h
      rcases h with h | h
      · exact inside "conditionals" (by rw [body]; simp [Body.entries]) h
      · exact inside "actions" (by rw [body]; simp [Body.entries]) h
  | _ =>
      rw [body] at h
      cases h

namespace Block

/-- A block whose payload does not have too many levels. -/
def Shallow (b : Block) : Prop := b.payload.toJson.depth ≤ Json.maxDepth

theorem Shallow.written {b : Block} (h : b.Shallow) : b.written = .ok b.toJson := by
  refine Json.holding_eq_ok_iff.mpr ⟨fun v loose => ?_, rfl⟩
  have inside := Payload.depth_loose (p := b.payload) loose
  exact Nat.le_trans (by omega) h

end Block

end PromptForm
