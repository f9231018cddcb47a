import Mathlib.Data.List.Forall2
import PromptForm.Proofs.Lowering.Form

/-! # Fields that are lowered alike

Of a field, lowering a form takes the blocks, the label, and how the condition reads. So forms whose
fields agree in these become the same blocks, or fail alike. Only the conditions that are reported may
be written differently.
-/

namespace PromptForm

namespace Field

/-- How the condition reads, if there is one. -/
def reading? (f : Field) : Option (Except Failure (Option Expression)) :=
  (f.showIf.bind nonEmpty?).map fun expr => Expression.parse? expr.toList

/-- Fields between which lowering makes no difference. -/
structure Alike (f g : Field) : Prop where
  lower : f.lower = g.lower
  label : f.label = g.label
  reading : f.reading? = g.reading?

end Field

/-- Parts between which lowering makes no difference. -/
inductive Part.Alike : Part → Part → Prop
  | filler (s : Sketch) : Alike (filler s) (filler s)
  | field {f g : Field} : f.Alike g → Alike (field f) (field g)

theorem LabelMap.resolve_congr {expr expr' : String}
    (same : Expression.parse? expr.toList = Expression.parse? expr'.toList) (labels : LabelMap) :
    labels.resolve expr = labels.resolve expr' := by
  simp only [resolve, same]

namespace Lowered

/-- What has been lowered, without the conditions that are reported. -/
def unreported (s : Lowered) : Lowered := { s with unresolved := [] }

theorem unreported_addField {s t : Lowered} (same : s.unreported = t.unreported) {f g : Field}
    (label : f.label = g.label) (first : Block) (others : List Block) :
    (s.addField f first others).unreported = (t.addField g first others).unreported := by
  simp only [unreported, mk.injEq, and_true] at same
  simp only [unreported, addField, same, label]

variable {s t : Lowered}

theorem field_alike (same : s.unreported = t.unreported) {f g : Field} (h : f.Alike g) :
    unreported <$> s.field f = unreported <$> t.field g := by
  have labels : s.labels = t.labels := by
    simp only [unreported, mk.injEq] at same
    exact same.2.1
  rw [field, field, map_bind, map_bind, h.lower]
  refine congrArg _ (funext fun blocks => ?_)
  cases blocks with
  | nil => simp only [map_pure, same]
  | cons first others =>
      have reading := h.reading
      simp only [Field.reading?] at reading
      cases condition : f.showIf.bind nonEmpty? with
      | none =>
          cases condition' : g.showIf.bind nonEmpty? with
          | none => simp only [map_pure, unreported_addField same h.label]
          | some expr' => simp [condition, condition'] at reading
      | some expr =>
          cases condition' : g.showIf.bind nonEmpty? with
          | none => simp [condition, condition'] at reading
          | some expr' =>
              rw [condition, condition'] at reading
              have resolved := LabelMap.resolve_congr (Option.some.inj reading) t.labels
              simp only [map_bind, labels, resolved]
              refine congrArg _ (funext fun outcome => ?_)
              cases outcome with
              | none =>
                  have added := unreported_addField same h.label first others
                  exact congrArg (pure : Lowered → Draw Lowered) added
              | some rule => simp only [map_pure, unreported_addField same h.label]

theorem part_alike (same : s.unreported = t.unreported) {p q : Part} (h : p.Alike q) :
    unreported <$> s.part p = unreported <$> t.part q := by
  cases h with
  | filler sketch =>
      have added (block : Block) : (s.add [block]).unreported = (t.add [block]).unreported := by
        simp only [unreported, mk.injEq, and_true] at same
        simp only [unreported, add, same]
      simp only [part, map_bind, map_pure, added]
  | field alike => exact field_alike same alike

/-- Parts that are alike are lowered alike, one after the other. -/
theorem parts_alike (same : s.unreported = t.unreported) {ps qs : List Part}
    (h : List.Forall₂ Part.Alike ps qs) :
    unreported <$> s.parts ps = unreported <$> t.parts qs := by
  induction h generalizing s t with
  | nil => simp only [parts, map_pure, same]
  | @cons p q ps qs first others ih =>
      -- The conditions reported so far make no difference to what comes next.
      have forgets (u : Lowered) :
          unreported <$> u.unreported.parts qs = unreported <$> u.parts qs :=
        (ih (s := u) (t := u.unreported) rfl).symm.trans (ih (s := u) (t := u) rfl)
      calc
        unreported <$> s.parts (p :: ps) = s.part p >>= fun u => unreported <$> u.parts ps :=
          map_bind ..
        _ = s.part p >>= fun u => unreported <$> u.unreported.parts qs :=
          bind_congr fun u => ih rfl
        _ = (unreported <$> s.part p) >>= fun u => unreported <$> u.parts qs :=
          (bind_map_left unreported (s.part p) fun u => unreported <$> u.parts qs).symm
        _ = (unreported <$> t.part q) >>= fun u => unreported <$> u.parts qs := by
          rw [part_alike same first]
        _ = t.part q >>= fun u => unreported <$> u.unreported.parts qs :=
          bind_map_left unreported (t.part q) fun u => unreported <$> u.parts qs
        _ = t.part q >>= fun u => unreported <$> u.parts qs := bind_congr forgets
        _ = unreported <$> t.parts (q :: qs) := (map_bind ..).symm

end Lowered

namespace Form

/-- The blocks that a form is lowered to. -/
def blocks (form : Form) (attribution : Option String) : Draw (List Block) :=
  Lowered.blocks <$> form.lower attribution

/-- Forms whose parts are alike become the same blocks, or fail alike. -/
theorem blocks_alike {form form' : Form} {attribution : Option String}
    (h : List.Forall₂ Part.Alike (Part.ofForm form attribution) (Part.ofForm form' attribution)) :
    form.blocks attribution = form'.blocks attribution := by
  have forgets (x : Draw Lowered) :
      Lowered.blocks <$> x = Lowered.blocks <$> Lowered.unreported <$> x := by
    rw [Functor.map_map]
    rfl
  rw [blocks, blocks, lower_eq, lower_eq, forgets, Lowered.parts_alike rfl h, ← forgets]

end Form

end PromptForm
