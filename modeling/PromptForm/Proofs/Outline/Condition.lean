import PromptForm.Proofs.Condition.Expression
import PromptForm.Proofs.Lowering.Failure
import PromptForm.Proofs.Outline.Document

/-! # Conditions of outlines

The conditions that the builder writes can be read, whatever the labels and the options, and those
of stock forms refer to a field before. So every form of an outline is lowered.
-/

namespace PromptForm

namespace Outline

open Expression Text

/-- A text that begins with letters of their own, in some case. -/
theorem ownPrefix {p : Char} {ps before cs : List Char} (own : isOwnLetter p)
    (h : (p :: ps).isPrefixOf (lowerFrom before cs)) : ∃ c rest, cs = c :: rest ∧
      c.toNat < 128 ∧ c.toLower = p ∧ ps.isPrefixOf (lowerFrom (c :: before) rest) := by
  obtain ⟨tail, split⟩ := List.isPrefixOf_iff_prefix.mp h
  obtain ⟨c, rest, rfl, basic, letter, same⟩ := lowerFrom_head own split.symm
  exact ⟨c, rest, rfl, basic, letter, List.isPrefixOf_iff_prefix.mpr ⟨tail, same⟩⟩

/-- An answer that begins with `other` has a letter `r` in fifth place. -/
theorem other_letter {answer : String} (h : Builder.beginsWith "other" answer) :
    ∃ value x rest, answer.toList = value ++ x :: rest ∧ value.length = 4 ∧ isSolid x := by
  rw [Builder.beginsWith, lowered, onText, String.toList_ofList, String.toList_ofList] at h
  obtain ⟨a, rest, split, _, _, h⟩ := ownPrefix (p := 'o') (by decide) h
  obtain ⟨b, rest, rfl, _, _, h⟩ := ownPrefix (p := 't') (by decide) h
  obtain ⟨c, rest, rfl, _, _, h⟩ := ownPrefix (p := 'h') (by decide) h
  obtain ⟨d, rest, rfl, _, _, h⟩ := ownPrefix (p := 'e') (by decide) h
  obtain ⟨x, rest, rfl, basic, letter, _⟩ := ownPrefix (p := 'r') (by decide) h
  have each : ∀ n < 128, (Char.ofNat n).toLower = 'r' → isSolid (Char.ofNat n) := by decide
  have solid := each x.toNat basic
  rw [Char.ofNat_toNat] at solid
  exact ⟨[a, b, c, d], x, rest, split, rfl, solid letter⟩

/-- A condition that the builder writes has, in its value, a character that no whole number has. -/
theorem answered_solid {answer : String} (awaited : Awaited answer) (label : String) :
    ∃ value x rest, isSolid x ∧ (4 ≤ value.length ∨ rest = []) ∧
      (Builder.answered label answer).toList =
        (label.toList ++ [' ']) ++ '=' :: ' ' :: (value ++ x :: rest) := by
  have text : (Builder.answered label answer).toList =
      (label.toList ++ [' ']) ++ '=' :: ' ' :: answer.toList := by
    rw [Builder.answered, String.toList_append, String.toList_append, List.append_assoc,
      List.append_assoc]
    rfl
  rcases awaited with rfl | other
  · exact ⟨['Y', 'e'], 's', [], by decide, .inr rfl, text⟩
  · obtain ⟨value, x, rest, split, size, solid⟩ := other_letter other
    exact ⟨value, x, rest, solid, .inl (Nat.le_of_eq size.symm), split ▸ text⟩

/-- The conditions that the builder writes can be read. -/
theorem parse?_answered {answer : String} (awaited : Awaited answer) (label : String) :
    ∃ found, parse? (Builder.answered label answer).toList = .ok found := by
  obtain ⟨value, x, rest, solid, far, text⟩ := answered_solid awaited label
  exact parse?_ok solid ⟨_, value, rest, text, far⟩

end Outline

/-! ## Conditions of stock forms -/

/-- Does every condition refer to a label before, or to one that was passed? The last one that was
passed comes first. -/
def allKnown (passed : List String) : List (String × Option String) → Bool
  | [] => true
  | (label, condition) :: rest =>
    condition.all (isKnown passed) && allKnown (label :: passed) rest

theorem isKnown_of_allKnown {passed : List String}
    {entries before after : List (String × Option String)} {label expr : String}
    (h : allKnown passed entries = true) (split : entries = before ++ (label, some expr) :: after) :
    isKnown ((before.map (·.1)).reverse ++ passed) expr = true := by
  subst split
  induction before generalizing passed with
  | nil =>
      rw [List.nil_append, allKnown, Bool.and_eq_true, Option.all_some] at h
      exact h.1
  | cons entry before ih =>
      rw [List.cons_append, allKnown, Bool.and_eq_true] at h
      have known := ih h.2
      rwa [List.map_cons, List.reverse_cons, List.append_assoc]

/-- Does every condition of some fields refer to a field before? -/
def Field.areKnown (fields : List Field) : Bool :=
  allKnown [] (fields.map fun f => (f.label, f.showIf))

theorem Field.isKnown_of_areKnown {fields before after : List Field} {f : Field}
    (h : areKnown fields = true) (split : fields = before ++ f :: after) {expr : String}
    (condition : f.showIf = some expr) : isKnown (before.map Field.label) expr = true := by
  have entries : (fields.map fun f => (f.label, f.showIf)) =
      (before.map fun f => (f.label, f.showIf)) ++
        (f.label, some expr) :: after.map fun f => (f.label, f.showIf) := by
    rw [split, List.map_append, List.map_cons, condition]
  have known := isKnown_of_allKnown h entries
  rw [List.append_nil, List.map_map] at known
  exact isKnown_mono (fun label => List.mem_reverse.mp) known

namespace Template

theorem areKnown_bugReport (prompt : String) : Field.areKnown (bugReport prompt).fields = true := by
  have entries : (bugReport prompt).fields.map (fun f => (f.label, f.showIf)) =
      (bugReport "").fields.map (fun f => (f.label, f.showIf)) := by
    simp only [bugReport, Form.fields, part, List.flatMap_cons, List.flatMap_nil, List.map_append,
      List.map_cons, List.map_nil]
  rw [Field.areKnown, entries]
  decide +kernel

/-- The conditions of a stock form refer to fields before. -/
theorem areKnown_match? {prompt : String} {form : Form} (h : match? prompt = some form) :
    Field.areKnown form.fields = true := by
  simp only [match?] at h
  split at h
  · cases h
    exact areKnown_bugReport prompt
  · split at h
    · cases h
      decide +kernel
    · cases h

end Template

/-! ## Forms of outlines -/

theorem Field.Usual.not_breaks {f : Field} (usual : f.Usual)
    (readable : ∀ expr, f.showIf = some expr → ∃ found, Expression.parse? expr.toList = .ok found) :
    ¬ f.Breaks := by
  rintro (faulty | ⟨_, condition, unreadable⟩)
  · rw [usual.fault?_eq_none] at faulty
    cases faulty
  · obtain ⟨expr, written, kept⟩ := Option.bind_eq_some_iff.mp condition
    obtain ⟨found, read⟩ := readable expr written
    simp only [nonEmpty?, Option.ite_none_left_eq_some, Option.some.injEq] at kept
    rw [← kept.2, read] at unreadable
    cases unreadable

/-- No field of a form of an outline breaks it. -/
theorem Outline.Document.not_breaks_form? {d : Document} (sound : d.Sound) {prompt : String}
    {form : Form} (h : d.form? prompt = some form) : ∀ f ∈ form.fields, ¬ f.Breaks := by
  intro f hf
  refine (usual_form? sound h f hf).not_breaks fun expr written => ?_
  obtain ⟨bare, rfl, fields⟩ := form?_cases h
  rcases (bare.enrich_woven prompt).own_or_extra hf with own | ⟨asked, _⟩
  · obtain ⟨before, after, split⟩ := List.append_of_mem own
    rcases fields with same | ⟨_, stock⟩
    · have follows := sound.builder.orderly before f after (same.symm.trans split)
      obtain ⟨source, answer, _, awaited, rfl⟩ := follows expr written
      exact parse?_answered awaited source.label
    · have known := Field.isKnown_of_areKnown (Template.areKnown_match? stock) split written
      obtain ⟨x, read, _⟩ := isKnown_iff.mp known
      exact ⟨_, read⟩
  · rw [asked.free] at written
    cases written

end PromptForm
