import Mathlib.Logic.Function.Basic
import PromptForm.Proofs.Lowering.Conditions
import PromptForm.Proofs.Lowering.Groups

/-! # Renaming ids

Lowering neither looks into an id nor compares it with another one. So what becomes of a form with one
source of ids is what becomes of it with any other source, once the ids of the one are put in place
of those of the other.
-/

namespace PromptForm

section Rename

variable (ρ : String → String)

def HiddenValue.rename (v : HiddenValue) : HiddenValue := { v with uuid := ρ v.uuid }

def CalculatedValue.rename (v : CalculatedValue) : CalculatedValue := { v with uuid := ρ v.uuid }

/-- Only values have ids. What conditional logic passes on as it is stays as it is. -/
def Body.rename : Body → Body
  | .hiddenFields values => .hiddenFields (values.map (HiddenValue.rename ρ))
  | .calculatedFields values => .calculatedFields (values.map (CalculatedValue.rename ρ))
  | body => body

def Condition.rename (c : Condition) : Condition := { c with target := ρ c.target }

def Rule.rename (r : Rule) : Rule := ⟨r.conditions.map (Condition.rename ρ)⟩

def Payload.rename (p : Payload) : Payload := ⟨p.rule.map (Rule.rename ρ), p.body.rename ρ⟩

def Block.rename (b : Block) : Block :=
  { b with
    uuid := ρ b.uuid
    groupUuid := ρ b.groupUuid
    payload := b.payload.rename ρ }

def LabelMap.rename (labels : LabelMap) : LabelMap := labels.map fun entry => (entry.1, ρ entry.2)

def Lowered.rename (s : Lowered) : Lowered :=
  ⟨s.blocks.map (Block.rename ρ), s.labels.rename ρ, s.unresolved⟩

def Sketch.rename (s : Sketch) : Sketch := { s with body := s.body.rename ρ }

theorem Body.rename_of_own {body : Body} (own : body.valueIds = []) : body.rename ρ = body := by
  cases body with
  | hiddenFields values | calculatedFields values =>
      obtain rfl : values = [] := List.map_eq_nil_iff.mp own
      rfl
  | _ => rfl

theorem Sketch.Plain.rename {s : Sketch} (h : s.Plain) : s.rename ρ = s := by
  rw [Sketch.rename, Body.rename_of_own ρ h.2]

end Rename

namespace IdSource

variable {ids ids' : IdSource} {ρ : String → String}

/-- The ids of one source go to those of another, and no text becomes or stops being empty. -/
structure Renames (ids ids' : IdSource) (ρ : String → String) : Prop where
  moves : ∀ n, ρ (ids n) = ids' n
  isEmpty : ∀ s, (ρ s).isEmpty = s.isEmpty

/-- The ids of a second source in place of those of a first one. Other texts stay what they are. -/
noncomputable def translation (ids ids' : IdSource) : String → String := Function.extend ids ids' id

theorem translation_renames (filled : ids.Nonempty) (filled' : ids'.Nonempty)
    (injective : Function.Injective ids) : ids.Renames ids' (ids.translation ids') where
  moves n := injective.extend_apply ids' id n
  isEmpty s := by
    by_cases h : ∃ n, ids n = s
    · obtain ⟨n, rfl⟩ := h
      rw [translation, injective.extend_apply, filled n, filled' n]
    · rw [translation, Function.extend_apply' _ _ _ h, id]

theorem Renames.nonEmpty? (h : ids.Renames ids' ρ) (s : String) :
    nonEmpty? (ρ s) = (PromptForm.nonEmpty? s).map ρ := by
  simp only [PromptForm.nonEmpty?, h.isEmpty]
  cases s.isEmpty <;> rfl

theorem Renames.fresh (h : ids.Renames ids' ρ) : Draw.Mirrors ids ids' ρ Draw.fresh Draw.fresh := by
  intro n
  rw [Draw.fresh, ← h.moves n]
  rfl

end IdSource

variable {ids ids' : IdSource} {ρ : String → String}

/-! ## Blocks of fields -/

theorem Sketch.draw_mirrors (h : ids.Renames ids' ρ) (s : Sketch) (group : Option String) :
    Draw.Mirrors ids ids' (Block.rename ρ) (s.draw group) ((s.rename ρ).draw (group.map ρ)) := by
  have given : (group.map ρ).bind nonEmpty? = (group.bind nonEmpty?).map ρ := by
    cases group with
    | none => rfl
    | some group => exact h.nonEmpty? group
  rw [Sketch.draw, Sketch.draw, given]
  refine h.fresh.bind fun uuid => ?_
  cases group.bind nonEmpty? with
  | none => exact h.fresh.bind fun _ => .pure _
  | some group => exact Draw.Mirrors.bind (g := ρ) (.pure group) fun _ => .pure _

theorem Cluster.draw_mirrors (h : ids.Renames ids' ρ) {c : Cluster} {label : String}
    (asks : c.Asks label) : Draw.Mirrors ids ids' (List.map (Block.rename ρ)) c.draw c.draw := by
  have single (s : Sketch) : Draw.Mirrors ids ids' (List.map (Block.rename ρ))
      (do return [← s.draw none]) (do return [← (s.rename ρ).draw none]) :=
    (s.draw_mirrors h none).bind fun b => .pure [b]
  cases c with
  | alone s =>
      have drawn := single s
      rw [asks.rename] at drawn
      exact drawn
  | hidden values =>
      have named (v : HiddenValue) : Draw.Mirrors ids ids' (HiddenValue.rename ρ)
          (do return { v with uuid := ← Draw.fresh }) (do return { v with uuid := ← Draw.fresh }) :=
        h.fresh.bind fun uuid => .pure { v with uuid := uuid }
      exact (Draw.Mirrors.each fun v _ => named v).bind fun vs => single (hiddenSketch vs)
  | calculated values =>
      have named (v : CalculatedValue) : Draw.Mirrors ids ids' (CalculatedValue.rename ρ)
          (do return { v with uuid := ← Draw.fresh }) (do return { v with uuid := ← Draw.fresh }) :=
        h.fresh.bind fun uuid => .pure { v with uuid := uuid }
      exact (Draw.Mirrors.each fun v _ => named v).bind fun vs => single (calculatedSketch vs)
  | question shown description answers =>
      refine h.fresh.bind fun group => ?_
      refine ((Sketch.title shown description).draw_mirrors h (some group)).bind fun title => ?_
      have answer : ∀ s ∈ answers, Draw.Mirrors ids ids' (Block.rename ρ)
          (s.draw (some group)) (s.draw (some (ρ group))) := by
        intro s hs
        have drawn := s.draw_mirrors h (some group)
        rw [(asks.2.2 s hs).rename] at drawn
        exact drawn
      exact (Draw.Mirrors.each answer).bind fun blocks => .pure (title :: blocks)

/-- A field becomes the same blocks, or fails alike, with any source of ids. -/
theorem Field.lower_mirrors (h : ids.Renames ids' ρ) (f : Field) :
    Draw.Mirrors ids ids' (List.map (Block.rename ρ)) f.lower f.lower := by
  cases faulty : f.fault? with
  | some e =>
      intro n
      rw [lower_error faulty, lower_error faulty]
      rfl
  | none =>
      rw [lower_eq faulty]
      cases found : f.cluster? with
      | none => exact .pure []
      | some c => exact Cluster.draw_mirrors h (cluster?_asks found)

/-! ## Labels -/

namespace LabelMap

theorem get?_rename (labels : LabelMap) (key : String) :
    get? (labels.rename ρ) key = (get? labels key).map ρ := by
  simp only [get?, rename, List.find?_map, Option.map_map]
  rfl

theorem put_rename (key block : String) (labels : LabelMap) :
    put key (ρ block) (labels.rename ρ) = (put key block labels).rename ρ := by
  induction labels with
  | nil => rfl
  | cons entry rest ih =>
      rw [rename, List.map_cons, put, put]
      split
      · rfl
      · exact congrArg _ ih

theorem register_rename (labels : LabelMap) (label block : String) :
    (labels.rename ρ).register label (ρ block) = (labels.register label block).rename ρ := by
  have keyed (keys : List String) :
      keys.foldl (fun labels key => put key (ρ block) labels) (labels.rename ρ) =
        (keys.foldl (fun labels key => put key block labels) labels).rename ρ := by
    induction keys generalizing labels with
    | nil => rfl
    | cons key keys ih => rw [List.foldl_cons, List.foldl_cons, put_rename, ih]
  exact keyed (referenceKeys label)

theorem lookup_rename (h : ids.Renames ids' ρ) (labels : LabelMap) (reference : String) :
    (labels.rename ρ).lookup reference = (labels.lookup reference).map ρ := by
  have shown (key : String) : (get? (labels.rename ρ) key).bind nonEmpty? =
      ((get? labels key).bind nonEmpty?).map ρ := by
    rw [get?_rename]
    cases get? labels key with
    | none => rfl
    | some block => exact h.nonEmpty? block
  simp only [lookup, shown, List.map_findSome?]
  rfl

theorem resolve_rename (h : ids.Renames ids' ρ) (labels : LabelMap) (expr : String) :
    (labels.rename ρ).resolve expr = (labels.resolve expr).map (Option.map (Rule.rename ρ)) := by
  simp only [resolve, lookup_rename h]
  cases Expression.parse? expr.toList with
  | error e => rfl
  | ok found =>
      cases found with
      | none => rfl
      | some x =>
          simp only [Except.map, Option.map_map]
          rfl

end LabelMap

/-! ## Forms -/

namespace Lowered

theorem addField_rename (s : Lowered) (f : Field) (first : Block) (others : List Block) :
    (s.addField f first others).rename ρ =
      (s.rename ρ).addField f (first.rename ρ) (others.map (Block.rename ρ)) := by
  have last : ((others.map (Block.rename ρ)).getLast?.getD (first.rename ρ)).uuid =
      ρ (others.getLast?.getD first).uuid := by
    rw [List.getLast?_map]
    cases others.getLast? <;> rfl
  simp only [addField, rename, last, LabelMap.register_rename, List.map_append, List.map_cons]
  cases f.label.isEmpty <;> rfl

theorem field_mirrors (h : ids.Renames ids' ρ) (s : Lowered) (f : Field) :
    Draw.Mirrors ids ids' (rename ρ) (s.field f) ((s.rename ρ).field f) := by
  refine (f.lower_mirrors h).bind fun blocks => ?_
  cases blocks with
  | nil => exact .pure s
  | cons first others =>
      simp only [List.map_cons, ← addField_rename]
      cases f.showIf.bind nonEmpty? with
      | none => exact .pure _
      | some expr =>
          have labels : (s.rename ρ).labels = s.labels.rename ρ := rfl
          simp only [labels, LabelMap.resolve_rename h]
          refine (Draw.Mirrors.ofExcept (s.labels.resolve expr)).bind fun outcome => ?_
          cases outcome with
          | none => exact .pure _
          | some rule =>
              have ruled : (first.rename ρ).withRule (rule.rename ρ) =
                  (first.withRule rule).rename ρ := rfl
              simp only [Option.map_some, ruled, ← addField_rename]
              exact .pure _

theorem part_mirrors (h : ids.Renames ids' ρ) (s : Lowered) {p : Part} (plain : p.Plain) :
    Draw.Mirrors ids ids' (rename ρ) (s.part p) ((s.rename ρ).part p) := by
  cases p with
  | filler sketch =>
      have drawn := sketch.draw_mirrors h none
      rw [Sketch.Plain.rename ρ plain] at drawn
      have added (block : Block) : (s.add [block]).rename ρ =
          (s.rename ρ).add [block.rename ρ] := by
        simp only [add, rename, List.map_append, List.map_cons, List.map_nil]
      refine drawn.bind fun block => ?_
      rw [← added]
      exact .pure _
  | field f => exact field_mirrors h s f

theorem parts_mirrors (h : ids.Renames ids' ρ) {ps : List Part} (plain : ∀ p ∈ ps, p.Plain)
    (s : Lowered) : Draw.Mirrors ids ids' (rename ρ) (s.parts ps) ((s.rename ρ).parts ps) := by
  induction ps generalizing s with
  | nil => exact .pure s
  | cons p ps ih =>
      obtain ⟨first, others⟩ := List.forall_mem_cons.mp plain
      exact (part_mirrors h s first).bind fun s => ih others s

end Lowered

namespace Form

/-- Lowering does not depend on the ids. With any two sources of ids that are not empty it fails
alike, or gives results that differ in the ids only: where the one has the `k`-th id of its source,
the other has the `k`-th id of its own source. The first source must not repeat itself, else its ids
do not say which one they are. -/
theorem lower_renaming {ids ids' : IdSource} (filled : ids.Nonempty) (filled' : ids'.Nonempty)
    (injective : Function.Injective ids) (form : Form) (attribution : Option String) (n : Nat) :
    (∀ k, ids.translation ids' (ids k) = ids' k) ∧
      form.lower attribution ids' n =
        ((form.lower attribution ids n).1.map (Lowered.rename (ids.translation ids')),
          (form.lower attribution ids n).2) := by
  have renames := IdSource.translation_renames filled filled' injective
  refine ⟨renames.moves, ?_⟩
  rw [lower_eq]
  exact Lowered.parts_mirrors renames (Part.plain_ofForm form attribution) .empty n

end Form

/-- Ids that are twice as long as tallies. -/
def doubled : IdSource := fun n => tallies n ++ tallies n

theorem doubled_nonempty : doubled.Nonempty := by
  intro n
  simp [doubled, tallies]

theorem lower_renaming_pets : ∃ lowered m, petsForm.lower none tallies 0 = (.ok lowered, m) ∧
    lowered.labels.lookup "your pets" = some (tallies 7) ∧
    tallies.translation doubled (tallies 7) = doubled 7 ∧
    petsForm.lower none doubled 0 = (.ok (lowered.rename (tallies.translation doubled)), m) := by
  have outcome : ((petsForm.lower none tallies 0).1.toOption.map fun lowered =>
      lowered.labels.lookup "your pets") = some (some (tallies 7)) := by
    decide +kernel
  obtain ⟨lowered, m, made, found⟩ := Draw.exists_of_toOption outcome
  obtain ⟨moves, renamed⟩ :=
    Form.lower_renaming tallies_nonempty doubled_nonempty tallies_injective petsForm none 0
  rw [made] at renamed
  exact ⟨lowered, m, made, found, moves 7, renamed⟩

end PromptForm
