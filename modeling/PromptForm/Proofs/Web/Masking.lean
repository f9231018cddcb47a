import PromptForm.Proofs.Json.Place
import PromptForm.Proofs.Web.Secret

/-! # What redaction masks

Redaction shows whatever is reached without a step to a secret, and masks what such a step leads to.
There is no other way to do both, so redacting twice is redacting once.
-/

namespace PromptForm.Web

open Json

def isSecretStep : Step → Bool
  | .item _ => false
  | .entry _ key => isSecretKey key

/-- Do no steps of a path lead to a secret? -/
def Clear (path : List Step) : Prop := ∀ s ∈ path, isSecretStep s = false

/-- The second value is the first one with exactly its secrets masked. -/
structure Masks (v w : Json) : Prop where
  shown : ∀ path, Clear path → (w.at? path).map top = (v.at? path).map top
  masked : ∀ path s, Clear path → isSecretStep s = true →
    w.at? (path ++ [s]) = (v.at? (path ++ [s])).map fun _ => .text mask

theorem Masks.trans {u v w : Json} (first : Masks u v) (second : Masks v w) : Masks u w where
  shown path clear := (second.shown path clear).trans (first.shown path clear)
  masked path s clear secret := by
    rw [second.masked path s clear secret, first.masked path s clear secret, Option.map_map]
    rfl

/-- A path either leads to no secret or has a first step that does. -/
theorem clear_or_exists (path : List Step) :
    Clear path ∨ ∃ front s rest, path = front ++ s :: rest ∧ Clear front ∧
      isSecretStep s = true := by
  cases found : path.find? isSecretStep with
  | none =>
      refine .inl fun s hs => ?_
      exact Bool.eq_false_iff.mpr (List.find?_eq_none.mp found s hs)
  | some s =>
      obtain ⟨secret, front, rest, split, clear⟩ := List.find?_eq_some_iff_append.mp found
      refine .inr ⟨front, s, rest, split, fun t ht => ?_, secret⟩
      simpa using clear t ht

/-- There is one way to mask the secrets of a value. -/
theorem Masks.unique {v w w' : Json} (one : Masks v w) (two : Masks v w') : w = w' := by
  refine eq_of_tops fun path => ?_
  rcases clear_or_exists path with clear | ⟨front, s, rest, rfl, clear, secret⟩
  · rw [one.shown path clear, two.shown path clear]
  · have here : w.at? (front ++ [s]) = w'.at? (front ++ [s]) := by
      rw [one.masked front s clear secret, two.masked front s clear secret]
    rw [List.append_cons front s rest, at?_append w, at?_append w', here]

theorem top_redact (v : Json) : (redact v).top = v.top := by
  cases v with
  | array items => rw [redact, redactItems_eq_map, top, top, List.length_map]
  | object entries =>
      rw [redact, redactEntries_eq_map, top, top, List.map_map]
      rfl
  | null | bool | int | double | text => rfl

/-- What a step leads to is masked if it is a secret, and otherwise its own secrets are. -/
theorem part?_redact (v : Json) (s : Step) :
    (redact v).part? s =
      (v.part? s).map fun u => if isSecretStep s then .text mask else redact u := by
  cases v with
  | array items =>
      cases s with
      | item i =>
          rw [redact, redactItems_eq_map, part?, part?, List.getElem?_map]
          rfl
      | entry => rfl
  | object entries =>
      cases s with
      | item => rfl
      | entry i key =>
          rw [redact, redactEntries_eq_map, part?, part?, List.getElem?_map]
          cases entries[i]? with
          | none => rfl
          | some entry =>
              by_cases same : entry.1 = key
              · simp only [Option.map_some, Option.bind_some, same, if_true]
                rfl
              · simp [same]
  | null | bool | int | double | text => rfl

theorem at?_redact {path : List Step} (clear : Clear path) (v : Json) :
    (redact v).at? path = (v.at? path).map redact := by
  induction path generalizing v with
  | nil => rfl
  | cons s path ih =>
      obtain ⟨here, later⟩ := List.forall_mem_cons.mp clear
      rw [at?_cons, at?_cons, part?_redact, here]
      cases v.part? s with
      | none => rfl
      | some u => exact ih later u

theorem masks_redact (v : Json) : Masks v (redact v) where
  shown path clear := by
    rw [at?_redact clear, Option.map_map]
    exact Option.map_congr fun u _ => top_redact u
  masked path s clear secret := by
    rw [at?_append, at?_append, at?_redact clear]
    cases v.at? path with
    | none => rfl
    | some u =>
        have step : (redact u).part? s = (u.part? s).map fun _ => .text mask := by
          rw [part?_redact, secret]
          rfl
        simpa [at?_cons, at?] using step

/-- Redaction is the one way to mask exactly the secrets of a value. What it gives has no secrets
left, and it tells values apart exactly when they differ in more than their secrets. -/
theorem redact_exact (v : Json) :
    (∀ w, Masks v w ↔ w = redact v) ∧ redact (redact v) = redact v ∧
      ∀ w, redact v = redact w ↔ Alike v w := by
  have only (w : Json) : Masks v w ↔ w = redact v := by
    constructor
    · intro masks
      exact masks.unique (masks_redact v)
    · rintro rfl
      exact masks_redact v
  have again : Masks v (redact (redact v)) := (masks_redact v).trans (masks_redact (redact v))
  exact ⟨only, (only _).mp again, fun _ => redact_eq_iff⟩

end PromptForm.Web
