import PromptForm.Proofs.Block.Grouped
import PromptForm.Proofs.Lowering.Conditions

/-! # The layout of a form

Rules apart, the blocks of a form are those of its parts, one after the other: its title, its
description, its sections with a divider between neighbours, and a closing block. Conditions have no
say in it, so a form without its conditions has the same blocks without rules and the same labels.
-/

namespace PromptForm

theorem Cluster.draw_free (c : Cluster) : c.draw.Yields fun blocks => ∀ b ∈ blocks, b.Free := by
  refine draw_yields ?_
  cases c with
  | alone s => exact fun _ _ => rfl
  | hidden values | calculated values => exact fun _ _ _ => rfl
  | question label description answers => exact ⟨fun _ _ => rfl, fun _ _ _ _ => rfl⟩

/-- Lowering a field gives blocks without rules. -/
theorem Field.lower_free (f : Field) : f.lower.Yields fun blocks => ∀ b ∈ blocks, b.Free := by
  cases faulty : f.fault? with
  | some e =>
      intro ids n blocks m made
      rw [lower_error faulty] at made
      cases made
  | none =>
      rw [lower_eq faulty]
      cases f.cluster? with
      | none => exact .pure (List.forall_mem_nil _)
      | some c => exact c.draw_free

/-- The field without its condition. -/
def Field.unconditional (f : Field) : Field := { f with showIf := none }

theorem Field.lower_unconditional (f : Field) : f.unconditional.lower = f.lower := rfl

def Section.unconditional (s : Section) : Section :=
  { s with fields := s.fields.map Field.unconditional }

/-- The form without the conditions of its fields. -/
def Form.unconditional (form : Form) : Form :=
  { form with sections := form.sections.map Section.unconditional }

namespace Part

def unconditional : Part → Part
  | filler s => filler s
  | field f => field f.unconditional

theorem map_ofSection (s : Section) :
    (ofSection s).map unconditional = ofSection s.unconditional := by
  simp only [ofSection, Section.unconditional, paragraph, List.map_append, List.map_map]
  cases trimmed? s.title <;> cases s.description.bind trimmed? <;> rfl

theorem map_ofSections (secs : List Section) :
    (ofSections secs).map unconditional = ofSections (secs.map Section.unconditional) := by
  induction secs with
  | nil => rfl
  | cons s rest ih =>
      cases rest with
      | nil => exact map_ofSection s
      | cons next rest =>
          rw [ofSections, List.map_append, List.map_cons, ih, map_ofSection]
          · rfl
          · exact List.cons_ne_nil next rest

theorem map_ofForm (form : Form) (attribution : Option String) :
    (ofForm form attribution).map unconditional = ofForm form.unconditional attribution := by
  have description : (paragraph form.description).map unconditional =
      paragraph form.description := by
    simp only [paragraph]
    cases form.description.bind trimmed? <;> rfl
  simp only [ofForm, List.map_append, List.map_cons, description, map_ofSections]
  rfl

/-- What comes between neighbouring sections. -/
def divider : Part := filler (.ofKind .divider .empty)

/-- Sections are joined by dividers. -/
theorem ofSections_eq (secs : List Section) :
    ofSections secs = List.intercalate [divider] (secs.map ofSection) := by
  induction secs with
  | nil => rfl
  | cons s rest ih =>
      cases rest with
      | nil => exact List.intercalate_singleton.symm
      | cons next rest =>
          rw [ofSections, ih]
          · simp only [List.map_cons, List.intercalate_cons_cons, divider, List.append_assoc,
              List.singleton_append]
          · exact List.cons_ne_nil next rest

/-- The blocks of parts, one after the other. -/
def lowerAll (parts : List Part) : Draw (List Block) := do
  let blocks ← Draw.each lower parts
  return blocks.flatten

end Part

namespace Lowered

/-- What has been lowered, without rules and reports. -/
def unruled (s : Lowered) : Lowered := ⟨s.blocks.map Block.bare, s.labels, []⟩

/-- Adding the blocks of a field, the first of which may have got a rule, comes down to adding them
without the rule. -/
theorem unruled_addField (s : Lowered) (f : Field) {shown first : Block} {others : List Block}
    (bare : shown.bare = first) (free : ∀ b ∈ others, b.Free) :
    (s.addField f shown others).unruled = s.unruled.addField f.unconditional first others := by
  subst bare
  have last : (others.getLast?.getD shown).uuid = (others.getLast?.getD shown.bare).uuid := by
    cases others.getLast? <;> rfl
  simp only [unruled, addField, List.map_append, List.map_cons, Block.map_bare_of_free free, last]
  rfl

variable {s s' : Lowered} {ids : IdSource} {n m : Nat}

/-- Whatever becomes of the condition of a field, its blocks are added, the first one perhaps with a
rule. -/
theorem field_added {f : Field} {first : Block} {others : List Block} {k : Nat}
    (free : first.Free) (made : f.lower ids n = (.ok (first :: others), k))
    (step : s.field f ids n = (.ok s', m)) :
    k = m ∧ ∃ shown : Block, shown.bare = first ∧
      s'.unruled = (s.addField f shown others).unruled := by
  rw [field, Draw.bind_ok made] at step
  cases condition : f.showIf.bind nonEmpty? with
  | none =>
      simp only [condition] at step
      cases step
      exact ⟨rfl, first, Block.bare_of_free free, rfl⟩
  | some expr =>
      simp only [condition] at step
      obtain ⟨outcome, k', resolved, rest⟩ := Draw.of_bind_ok step
      obtain rfl : k = k' := (Prod.mk.inj resolved).2
      cases outcome with
      | none =>
          cases rest
          exact ⟨rfl, first, Block.bare_of_free free, rfl⟩
      | some rule =>
          cases rest
          exact ⟨rfl, first.withRule rule, Block.bare_of_free free, rfl⟩

/-- Lowering a part adds its blocks. With or without conditions, they are the same but for the
rules. -/
theorem part_layout {p : Part} (step : s.part p ids n = (.ok s', m)) :
    ∃ blocks, p.lower ids n = (.ok blocks, m) ∧ s'.unruled.blocks = s.unruled.blocks ++ blocks ∧
      s.unruled.part p.unconditional ids n = (.ok s'.unruled, m) := by
  cases p with
  | filler sketch =>
      rw [part, Draw.bind_ok (sketch.draw_none n)] at step
      cases step
      refine ⟨_, rfl, List.map_append, ?_⟩
      simp only [Part.unconditional, part, Draw.bind_ok (sketch.draw_none n), unruled, add,
        List.map_append]
      rfl
  | field f =>
      obtain ⟨blocks, k, made, rest⟩ := Draw.of_bind_ok step
      have plain : f.unconditional.lower ids n = (.ok blocks, k) := f.lower_unconditional ▸ made
      have free := f.lower_free ids n blocks k made
      refine ⟨blocks, ?_⟩
      simp only [Part.unconditional, part, field, Draw.bind_ok plain, Part.lower]
      cases blocks with
      | nil =>
          cases rest
          exact ⟨made, (List.append_nil _).symm, rfl⟩
      | cons first others =>
          obtain ⟨bare, free⟩ := List.forall_mem_cons.mp free
          obtain ⟨rfl, shown, same, result⟩ := field_added bare made step
          rw [result, unruled_addField s f same free]
          exact ⟨made, rfl, rfl⟩

theorem parts_layout {ps : List Part} (steps : s.parts ps ids n = (.ok s', m)) :
    ∃ blocks, Part.lowerAll ps ids n = (.ok blocks, m) ∧
      s'.unruled.blocks = s.unruled.blocks ++ blocks ∧
      s.unruled.parts (ps.map Part.unconditional) ids n = (.ok s'.unruled, m) := by
  induction ps generalizing s n with
  | nil =>
      cases steps
      exact ⟨[], rfl, (List.append_nil _).symm, rfl⟩
  | cons p ps ih =>
      obtain ⟨next, k, step, rest⟩ := Draw.of_bind_ok steps
      obtain ⟨blocks, made, added, plain⟩ := part_layout step
      obtain ⟨more, others, add_more, all_plain⟩ := ih rest
      refine ⟨blocks ++ more, ?_, ?_, ?_⟩
      · obtain ⟨lists, k', each, flat⟩ := Draw.of_bind_ok others
        cases flat
        rw [Part.lowerAll, Draw.each_cons]
        simp only [bind_assoc, pure_bind, Draw.bind_ok made, Draw.bind_ok each]
        rfl
      · rw [add_more, added, List.append_assoc]
      · rw [List.map_cons, parts, Draw.bind_ok plain]
        exact all_plain

end Lowered

namespace Form

/-- The parts of a form: the title, the description unless it is blank, the sections with a divider
between neighbours, and the closing text. -/
def layout (form : Form) (attribution : Option String) : List Part :=
  .filler (.formTitle form.title) :: Part.paragraph form.description ++
    List.intercalate [Part.divider] (form.sections.map Part.ofSection) ++
    [.filler (.text ((attribution.bind nonEmpty?).getD defaultAttribution))]

/-- A form that has been lowered has the blocks of its parts, one after the other, rules apart.
Without the conditions of its fields it has the same blocks and labels, and no rules. -/
theorem lower_layout {form : Form} {attribution : Option String} {ids : IdSource} {n m : Nat}
    {lowered : Lowered} (h : form.lower attribution ids n = (.ok lowered, m)) :
    Part.lowerAll (form.layout attribution) ids n = (.ok (lowered.blocks.map Block.bare), m) ∧
      form.unconditional.lower attribution ids n =
        (.ok ⟨lowered.blocks.map Block.bare, lowered.labels, []⟩, m) := by
  rw [lower_eq] at h ⊢
  obtain ⟨blocks, all, added, plain⟩ := Lowered.parts_layout h
  rw [layout, ← Part.ofSections_eq]
  rw [Part.map_ofForm] at plain
  have same : lowered.blocks.map Block.bare = blocks := added
  refine ⟨?_, plain⟩
  rw [same]
  exact all

end Form

/-- A form with a condition that reaches from its second section into its first one. -/
def shelterForm : Form where
  title := "Shelter"
  description := some "  Open daily "
  sections := [
    ⟨"Pets", none,
      [{ Field.plain .checkboxes "Your pets" with options := [.text "Cat", .text "Other"] }], []⟩,
    ⟨" ", some "About the others",
      [{ Field.plain .text "Which ones?" with showIf := some "your pets = Other" }], []⟩]
  settings := none
  extras := []

theorem lower_layout_shelter : ∃ lowered m,
    shelterForm.lower none tallies 0 = (.ok lowered, m) ∧ lowered.unresolved = [] ∧
    Part.lowerAll (shelterForm.layout none) tallies 0 = (.ok (lowered.blocks.map Block.bare), m) ∧
    shelterForm.unconditional.lower none tallies 0 =
      (.ok ⟨lowered.blocks.map Block.bare, lowered.labels, []⟩, m) := by
  have outcome : (shelterForm.lower none tallies 0).1.toOption.map Lowered.unresolved =
      some [] := by
    decide +kernel
  obtain ⟨lowered, m, made, resolved⟩ := Draw.exists_of_toOption outcome
  exact ⟨lowered, m, made, resolved, Form.lower_layout made⟩

end PromptForm
