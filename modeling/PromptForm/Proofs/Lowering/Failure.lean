import PromptForm.Proofs.Lowering.Form

/-! # Forms that cannot be lowered

A form is lowered unless one of its fields breaks it: with a number that is too large for the whole
number that its blocks need, or with a condition that cannot be read. Neither the ids nor the other
fields have a say in it.
-/

namespace PromptForm

/-- A computation that never gives a result. -/
def Draw.Fails {α : Type} (x : Draw α) : Prop := ∀ ids n, ∃ e m, x ids n = (.error e, m)

namespace Draw

variable {α β : Type} {x : Draw α}

theorem Fails.bind (h : x.Fails) (f : α → Draw β) : (x >>= f).Fails := by
  intro ids n
  obtain ⟨e, m, failed⟩ := h ids n
  exact ⟨e, m, bind_error failed f⟩

theorem Total.bind_fails (h : x.Total) {f : α → Draw β} (fails : ∀ a, (f a).Fails) :
    (x >>= f).Fails := by
  intro ids n
  obtain ⟨a, m, made⟩ := h ids n
  rw [bind_ok made f]
  exact fails a ids m

theorem Fails.not_ok (h : x.Fails) (ids : IdSource) (n m : Nat) (a : α) :
    x ids n ≠ (.ok a, m) := by
  obtain ⟨e, k, failed⟩ := h ids n
  rw [failed]
  exact nofun

/-- A computation that always gives at least one element. -/
def Filled (x : Draw (List β)) : Prop :=
  ∀ ids n, ∃ first others m, x ids n = (.ok (first :: others), m)

theorem Filled.pure (first : β) (others : List β) :
    Filled (Pure.pure (first :: others) : Draw (List β)) := fun _ n => ⟨first, others, n, rfl⟩

theorem Total.bind_filled (h : x.Total) {f : α → Draw (List β)} (filled : ∀ a, (f a).Filled) :
    (x >>= f).Filled := by
  intro ids n
  obtain ⟨a, m, made⟩ := h ids n
  rw [bind_ok made f]
  exact filled a ids m

end Draw

theorem Cluster.draw_filled (c : Cluster) : c.draw.Filled := by
  cases c with
  | alone s => exact (s.draw_total none).bind_filled fun _ => .pure _ _
  | hidden values | calculated values =>
      refine (Draw.Total.each (fun v => ?_) values).bind_filled fun _ => ?_
      · exact Draw.Total.fresh.bind fun _ => Draw.Total.pure _
      · exact (Sketch.draw_total _ none).bind_filled fun _ => .pure _ _
  | question label description answers =>
      refine Draw.Total.fresh.bind_filled fun _ => (Sketch.draw_total _ _).bind_filled fun _ => ?_
      exact (Draw.Total.each (fun s => s.draw_total _) answers).bind_filled fun _ => .pure _ _

theorem LabelMap.resolve_error_iff {labels : LabelMap} {expr : String} {e : Failure} :
    labels.resolve expr = .error e ↔ Expression.parse? expr.toList = .error e := by
  simp only [resolve]
  cases Expression.parse? expr.toList with
  | error e' => simp
  | ok found => cases found <;> simp

/-- A field that breaks every form that it is in. -/
inductive Field.Breaks (f : Field) : Prop
  | number {e : NotFinite} : f.fault? = some e → Breaks f
  | condition {c : Cluster} {expr : String} {e : Failure} : f.cluster? = some c →
      f.showIf.bind nonEmpty? = some expr → Expression.parse? expr.toList = .error e → Breaks f

namespace Lowered

variable {f : Field}

theorem field_fails (h : f.Breaks) (s : Lowered) : (s.field f).Fails := by
  intro ids n
  cases faulty : f.fault? with
  | some e => exact ⟨_, _, Draw.bind_error (Field.lower_error faulty ids n) _⟩
  | none =>
      cases h with
      | number found =>
          rw [faulty] at found
          cases found
      | @condition c expr e found condition unreadable =>
          obtain ⟨first, others, m, drawn⟩ := c.draw_filled ids n
          have made : f.lower ids n = (.ok (first :: others), m) := by
            rw [Field.lower_eq faulty, found]
            exact drawn
          have unresolved : s.labels.resolve expr = .error e :=
            LabelMap.resolve_error_iff.mpr unreadable
          have failed : Draw.ofExcept (s.labels.resolve expr) ids m = (.error e, m) := by
            rw [unresolved]
            rfl
          rw [field, Draw.bind_ok made]
          simp only [condition]
          exact ⟨e, m, Draw.bind_error failed _⟩

theorem field_total (h : ¬ f.Breaks) (s : Lowered) : (s.field f).Total := by
  intro ids n
  have sane : f.fault? = none := by
    cases faulty : f.fault? with
    | none => rfl
    | some e => exact absurd (.number faulty) h
  cases found : f.cluster? with
  | none =>
      have made : f.lower ids n = (.ok [], n) := by
        rw [Field.lower_eq sane, found]
        rfl
      exact ⟨s, n, Draw.bind_ok made _⟩
  | some c =>
      obtain ⟨first, others, m, drawn⟩ := c.draw_filled ids n
      have made : f.lower ids n = (.ok (first :: others), m) := by
        rw [Field.lower_eq sane, found]
        exact drawn
      rw [field, Draw.bind_ok made]
      cases condition : f.showIf.bind nonEmpty? with
      | none => exact ⟨_, _, rfl⟩
      | some expr =>
          cases resolved : s.labels.resolve expr with
          | error e =>
              have unreadable := LabelMap.resolve_error_iff.mp resolved
              exact absurd (.condition found condition unreadable) h
          | ok outcome =>
              simp only [resolved, Draw.ofExcept_ok, pure_bind]
              cases outcome <;> exact ⟨_, _, rfl⟩

theorem part_total {p : Part} (h : ∀ f, p = .field f → ¬ f.Breaks) (s : Lowered) :
    (s.part p).Total := by
  cases p with
  | filler sketch => exact (sketch.draw_total none).bind fun _ => Draw.Total.pure _
  | field f => exact field_total (h f rfl) s

theorem parts_total {ps : List Part} (h : ∀ f, .field f ∈ ps → ¬ f.Breaks) (s : Lowered) :
    (s.parts ps).Total := by
  induction ps generalizing s with
  | nil => exact Draw.Total.pure s
  | cons p ps ih =>
      refine (part_total (fun f same => h f (same ▸ List.mem_cons_self)) s).bind fun s => ?_
      exact ih (fun f hf => h f (List.mem_cons_of_mem _ hf)) s

theorem parts_fails {ps : List Part} (hf : .field f ∈ ps) (breaks : f.Breaks) (s : Lowered) :
    (s.parts ps).Fails := by
  induction ps generalizing s with
  | nil => cases hf
  | cons p ps ih =>
      by_cases first : ∃ g, p = .field g ∧ g.Breaks
      · obtain ⟨g, rfl, breaks⟩ := first
        exact (field_fails breaks s).bind _
      · have here : ∀ g, p = .field g → ¬ g.Breaks := fun g same found => first ⟨g, same, found⟩
        refine (part_total here s).bind_fails fun s => ih ?_ s
        rcases List.mem_cons.mp hf with rfl | hf
        · exact absurd breaks (here f rfl)
        · exact hf

end Lowered

/-- A form is lowered if and only if none of its fields breaks it. -/
theorem Form.lower_ok_iff (form : Form) (attribution : Option String) (ids : IdSource) (n : Nat) :
    (∃ lowered m, form.lower attribution ids n = (.ok lowered, m)) ↔
      ∀ f ∈ form.fields, ¬ f.Breaks := by
  have listed (f : Field) : f ∈ form.fields ↔ .field f ∈ Part.ofForm form attribution := by
    rw [← Part.fields_ofForm form attribution, List.mem_filterMap]
    constructor
    · rintro ⟨p, hp, found⟩
      cases p with
      | filler s => cases found
      | field g =>
          cases found
          exact hp
    · exact fun hf => ⟨_, hf, rfl⟩
  rw [Form.lower_eq]
  constructor
  · rintro ⟨lowered, m, made⟩ f hf breaks
    exact (Lowered.parts_fails ((listed f).mp hf) breaks _).not_ok ids n m lowered made
  · intro sane
    exact Lowered.parts_total (fun f hf => sane f ((listed f).mpr hf)) _ ids n

end PromptForm
