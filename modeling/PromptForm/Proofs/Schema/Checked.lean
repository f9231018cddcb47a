import PromptForm.Schema.Member

/-! # What passed a check

A value that passed a check of several parts has parts that passed theirs. So what a check promises
of a value follows from what the checks of its parts promise, and so does what two values have in
common that passed alike. A check finishes if it does not break off, and checks of single values
always do.
-/

namespace PromptForm

namespace Checked

variable {α β : Type} {P : β → Prop} {Q : α → Prop}

/-- Every value that passes satisfies `P`. -/
def Promises (a : Checked β) (P : β → Prop) : Prop := ∀ b, a = .ok b → P b

theorem promises_pure {b : β} (h : P b) : (pure b : Checked β).Promises P := by
  intro _ passed
  cases passed
  exact h

theorem promises_seq_of {f : Checked (α → β)} {a : Checked α} (ha : a.Promises Q)
    (hf : f.Promises fun g => ∀ x, Q x → P (g x)) : (f <*> a).Promises P := by
  intro b passed
  have combined : combine f a = .ok b := passed
  cases f <;> cases a <;> simp only [combine, ok.injEq, reduceCtorEq] at combined
  subst combined
  exact hf _ rfl _ (ha _ rfl)

section Follows

variable {α' β' : Type} {R : α → α' → Prop} {S : β → β' → Prop}

/-- Whenever the second check passes, the first one passes too, with a value like the other one. -/
def Follows (R : α → α' → Prop) (a : Checked α) (b : Checked α') : Prop :=
  ∀ y, b = .ok y → ∃ x, a = .ok x ∧ R x y

theorem follows_pure {x : α} {y : α'} (h : R x y) : Follows R (pure x) (pure y) := by
  intro _ passed
  cases passed
  exact ⟨x, rfl, h⟩

theorem follows_self {R : α → α → Prop} (h : ∀ x, R x x) (a : Checked α) : Follows R a a :=
  fun x passed => ⟨x, passed, h x⟩

theorem follows_seq_of {f : Checked (α → β)} {f' : Checked (α' → β')} {a : Checked α}
    {a' : Checked α'} (ha : Follows R a a')
    (hf : Follows (fun g g' => ∀ x y, R x y → S (g x) (g' y)) f f') :
    Follows S (f <*> a) (f' <*> a') := by
  intro z passed
  have combined : combine f' a' = .ok z := passed
  cases f' <;> cases a' <;> simp only [combine, ok.injEq, reduceCtorEq] at combined
  subst combined
  obtain ⟨x, rfl, like⟩ := ha _ rfl
  obtain ⟨g, rfl, liken⟩ := hf _ rfl
  exact ⟨g x, rfl, liken x _ like⟩

/-- A part that is checked alike may be anything. -/
theorem follows_seq {f : Checked (α → β)} {f' : Checked (α → β')} {a a' : Checked α}
    (hf : Follows (fun g g' => ∀ x, S (g x) (g' x)) f f') (same : a = a') :
    Follows S (f <*> a) (f' <*> a') := by
  subst same
  refine follows_seq_of (follows_self Eq.refl a) fun g' passed => ?_
  obtain ⟨g, rfl, liken⟩ := hf g' passed
  exact ⟨g, rfl, fun x _ same => same ▸ liken x⟩

end Follows

/-- A part of which nothing is promised may be anything. -/
theorem promises_seq {f : Checked (α → β)} {a : Checked α}
    (hf : f.Promises fun g => ∀ x, P (g x)) : (f <*> a).Promises P :=
  promises_seq_of (fun _ _ => trivial) fun g passed x _ => hf g passed x

theorem promises_map {f : α → β} {a : Checked α} (h : a.Promises fun x => P (f x)) :
    (map f a).Promises P := by
  intro b passed
  cases a <;> simp only [map, ok.injEq, reduceCtorEq] at passed
  subst passed
  exact h _ rfl

theorem promises_under {step : PathStep} {a : Checked β} (h : a.Promises P) :
    (under step a).Promises P := by
  intro b passed
  cases a <;> simp only [under, reduceCtorEq] at passed
  exact h b passed

theorem items_singleton {check : α → Checked β} {a : α} {b : β} (passed : check a = .ok b) :
    items check [a] = .ok [b] := by
  simp only [items, itemsFrom, passed, under, map, combine]

theorem promises_items {check : α → Checked β} (h : ∀ a, (check a).Promises P) (list : List α) :
    (items check list).Promises fun bs => ∀ b ∈ bs, P b := by
  suffices ∀ i, (itemsFrom check i list).Promises fun bs => ∀ b ∈ bs, P b from this 0
  induction list with
  | nil => exact fun i => promises_pure fun b hb => by cases hb
  | cons a rest ih =>
      intro i
      refine promises_seq_of (ih (i + 1)) (promises_map (promises_under ?_))
      intro first passed others ok b hb
      rcases List.mem_cons.mp hb with rfl | hb
      · exact h a b passed
      · exact ok b hb

end Checked

variable {α : Type} {P : α → Prop}

theorem Check.promises_object {check : Entries → Checked α}
    (h : ∀ entries, (check entries).Promises P) (v : Json) : (Check.object check v).Promises P := by
  cases v with
  | object entries => exact h entries
  | null | bool | int | double | text | array => exact fun _ passed => by cases passed

theorem Check.promises_list {check : Json → Checked α} (h : ∀ v, (check v).Promises P) (v : Json) :
    (Check.list check v).Promises fun as => ∀ a ∈ as, P a := by
  cases v with
  | array items => exact Checked.promises_items h items
  | null | bool | int | double | text | object => exact fun _ passed => by cases passed

theorem Entries.promises_optional {entries : Entries} {m : MemberKey} {default : α}
    {check : Json → Checked α} (given : ∀ v, (check v).Promises P) (missing : P default) :
    (Entries.optional entries m default check).Promises P := by
  simp only [Entries.optional]
  split
  · exact Checked.promises_under (given _)
  · exact Checked.promises_pure missing

namespace Checked

variable {β : Type} {a : Checked α}

/-- The check does not break off. -/
def Finishes (a : Checked α) : Prop := a ≠ .overflow

theorem finishes_pure (a : α) : (pure a : Checked α).Finishes := nofun

theorem finishes_seq_iff {f : Checked (α → β)} :
    (f <*> a).Finishes ↔ f.Finishes ∧ a.Finishes := by
  have combined : (f <*> a) = combine f a := rfl
  rw [combined]
  cases f <;> cases a <;> simp [Finishes, combine]

theorem finishes_seq {f : Checked (α → β)} (hf : f.Finishes) (ha : a.Finishes) :
    (f <*> a).Finishes :=
  finishes_seq_iff.mpr ⟨hf, ha⟩

theorem finishes_map_iff {f : α → β} : (map f a).Finishes ↔ a.Finishes := by
  cases a <;> simp [Finishes, map]

theorem finishes_map {f : α → β} (h : a.Finishes) : (map f a).Finishes := finishes_map_iff.mpr h

theorem finishes_under_iff {step : PathStep} : (under step a).Finishes ↔ a.Finishes := by
  cases a <;> simp [Finishes, under]

theorem finishes_under {step : PathStep} (h : a.Finishes) : (under step a).Finishes :=
  finishes_under_iff.mpr h

/-- Checking a list finishes when checking each of its items does. -/
theorem finishes_items_iff {check : β → Checked α} {list : List β} :
    (items check list).Finishes ↔ ∀ b ∈ list, (check b).Finishes := by
  suffices ∀ i, (itemsFrom check i list).Finishes ↔ ∀ b ∈ list, (check b).Finishes from this 0
  induction list with
  | nil => exact fun i => iff_of_true nofun nofun
  | cons b rest ih =>
      intro i
      have step := finishes_seq_iff (f := map List.cons (under (.index i) (check b)))
        (a := itemsFrom check (i + 1) rest)
      rw [finishes_map_iff, finishes_under_iff, ih] at step
      rw [List.forall_mem_cons]
      exact step

theorem finishes_items {check : β → Checked α} (h : ∀ b, (check b).Finishes) (list : List β) :
    (items check list).Finishes :=
  finishes_items_iff.mpr fun b _ => h b

end Checked

namespace Check

open Checked

theorem finishes_text (v : Json) : (text v).Finishes := by
  cases v <;> exact nofun

theorem finishes_any (v : Json) : (any v).Finishes := nofun

theorem finishes_flagOfInt (n : Int) : (flagOfInt n).Finishes := by
  simp only [flagOfInt]
  split
  · exact nofun
  · split <;> exact nofun

theorem finishes_flag (v : Json) : (flag v).Finishes := by
  cases v with
  | text s =>
      simp only [flag]
      split <;> exact nofun
  | int n =>
      simp only [flag]
      split
      · exact finishes_flagOfInt n
      · exact nofun
  | double x =>
      simp only [flag]
      split
      · split
        · exact finishes_flagOfInt _
        · exact nofun
      · exact nofun
  | null | bool | array | object => exact nofun

theorem finishes_whole (v : Json) : (whole v).Finishes := by
  cases v with
  | text s =>
      simp only [whole]
      split <;> exact nofun
  | double x =>
      simp only [whole]
      split
      · exact nofun
      · split
        · exact nofun
        · split <;> exact nofun
  | null | bool | int | array | object => exact nofun

theorem finishes_number (v : Json) : (number v).Finishes := by
  simp only [number]
  split
  · exact nofun
  · split <;> exact nofun

theorem finishes_nullable {check : Json → Checked α} (h : ∀ v, (check v).Finishes) (v : Json) :
    (nullable check v).Finishes := by
  cases v with
  | null => exact nofun
  | bool | int | double | text | array | object => exact finishes_map (h _)

theorem finishes_list {check : Json → Checked α} (h : ∀ v, (check v).Finishes) (v : Json) :
    (list check v).Finishes := by
  cases v with
  | array items => exact finishes_items h items
  | null | bool | int | double | text | object => exact nofun

end Check

theorem Entries.finishes_optional {check : Json → Checked α} (h : ∀ v, (check v).Finishes)
    (entries : Entries) (m : MemberKey) (default : α) :
    (Entries.optional entries m default check).Finishes := by
  simp only [Entries.optional]
  split
  · exact Checked.finishes_under (h _)
  · exact nofun

theorem Entries.finishes_maybe {check : Json → Checked α} (h : ∀ v, (check v).Finishes)
    (entries : Entries) (m : MemberKey) : (Entries.maybe entries m check).Finishes :=
  Entries.finishes_optional (Check.finishes_nullable h) entries m none

end PromptForm
