import PromptForm.Proofs.Lowering.Run

/-! # Conditions of a form

A rule stands on the first block of a field with a condition and nowhere else. It compares the
answer in one block, which comes before: the one that the reference of the condition stands for at
that place. The conditions of the fields that got blocks but no rule are reported, in order.
-/

namespace PromptForm

namespace Run

theorem blocks_isEmpty (r : Run) : r.blocks.isEmpty = r.bare.isEmpty := by
  unfold blocks
  split
  · rename_i bare _
    rw [bare]
    rfl
  · rfl

/-- Only the first block has a rule. -/
theorem rule_of_getElem {r : Run} (free : ∀ b ∈ r.bare, b.payload.rule = none) {i : Nat} {b : Block}
    (h : r.blocks[i]? = some b) : b.payload.rule = if i = 0 then r.rule else none := by
  cases bare : r.bare with
  | nil => simp [blocks, bare] at h
  | cons first others =>
      have unruled {c : Block} (hc : c ∈ first :: others) : c.payload.rule = none :=
        free c (bare ▸ hc)
      cases rule : r.rule with
      | none =>
          simp only [blocks, bare, rule] at h
          rw [ite_self]
          exact unruled (List.mem_of_getElem? h)
      | some given =>
          simp only [blocks, bare, rule] at h
          cases i with
          | zero =>
              cases h
              rfl
          | succ i => exact unruled (List.mem_cons_of_mem _ (List.mem_of_getElem? h))

/-- A run without blocks that have a rule has none itself. -/
theorem unresolved?_eq {r : Run} (free : ∀ b ∈ r.bare, b.payload.rule = none) :
    r.unresolved? = if r.blocks.isEmpty || r.blocks.any (·.payload.rule.isSome) then none
      else r.condition? := by
  have any_rule : (r.bare.isEmpty || r.blocks.any (·.payload.rule.isSome)) =
      (r.bare.isEmpty || r.rule.isSome) := by
    cases bare : r.bare with
    | nil => rfl
    | cons first others =>
        cases rule : r.rule with
        | some given => simp [blocks, bare, rule, Block.withRule]
        | none =>
            simp only [blocks, bare, rule, List.isEmpty_cons, Bool.false_or, Option.isSome_none,
              List.any_eq_false]
            intro b hb
            rw [free b (bare ▸ hb)]
            exact Bool.false_ne_true
  rw [blocks_isEmpty, any_rule, unresolved?]

theorem mem_blocks_uuid {r : Run} {target : String} (last : r.last? = some target) :
    ∃ b ∈ r.blocks, b.uuid = target := by
  obtain ⟨b, hb, rfl⟩ := Option.map_eq_some_iff.mp last
  have member := List.mem_of_getLast? hb
  unfold blocks
  split
  · rename_i first others rule bare _
    rw [bare, List.mem_cons] at member
    rcases member with rfl | member
    · exact ⟨b.withRule rule, List.mem_cons_self, rfl⟩
    · exact ⟨b, List.mem_cons_of_mem _ member, rfl⟩
  · exact ⟨b, member, rfl⟩

/-- What a reference stands for is a block that is there already. -/
theorem Refers.mem {runs : List Run} {reference target : String}
    (h : Refers runs reference target) : ∃ b ∈ runs.flatMap blocks, b.uuid = target := by
  obtain ⟨_, _, _, _, _, before, r, after, rfl, _, _, last⟩ := h
  obtain ⟨b, hb, uuid⟩ := mem_blocks_uuid last
  exact ⟨b, List.mem_flatMap.mpr ⟨r, by simp, hb⟩, uuid⟩

end Run

/-- The blocks, the rules and the reported conditions of a form that has been lowered, by the runs
of its parts. -/
structure ConditionsKept (ids : IdSource) (form : Form) (lowered : Lowered) (runs : List Run) :
    Prop where
  /-- The parts that are fields are the fields of the form, in order. -/
  fields : (runs.map Run.part).filterMap Part.field? = form.fields
  blocks : lowered.blocks = runs.flatMap Run.blocks
  /-- Apart from the rule, the blocks of a run are what its part is lowered to. -/
  bare : ∀ r ∈ runs, r.part.lower ids r.start = (.ok r.bare, r.stop)
  /-- Only the first block of a field with a condition has a rule. -/
  rule : ∀ earlier r later, runs = earlier ++ r :: later → ∀ i b rule, r.blocks[i]? = some b →
    (b.payload.rule = some rule ↔ i = 0 ∧ Run.RuleAfter earlier r rule)
  /-- The block that a rule compares comes before. -/
  target : ∀ earlier r later, runs = earlier ++ r :: later →
    ∀ rule, Run.RuleAfter earlier r rule → ∃ target ∈ earlier.flatMap Run.blocks,
      rule.conditions.map Condition.target = [target.uuid]
  /-- The conditions of the fields that got blocks but no rule are reported. -/
  unresolved : lowered.unresolved = runs.filterMap fun r =>
    if r.blocks.isEmpty || r.blocks.any (·.payload.rule.isSome) then none else r.condition?

/-- Every rule of a form that has been lowered stands where it has to and compares what it has to,
and every other condition is reported. -/
theorem Form.lower_conditions {form : Form} {attribution : Option String} {ids : IdSource}
    (filled : ids.Nonempty) {n m : Nat} {lowered : Lowered}
    (h : form.lower attribution ids n = (.ok lowered, m)) :
    ∃ runs : List Run, ConditionsKept ids form lowered runs := by
  obtain ⟨runs, parts, _, account⟩ := Form.lower_account filled h
  have free {r : Run} (hr : r ∈ runs) : ∀ b ∈ r.bare, b.payload.rule = none :=
    fun b hb => (Part.mem_lower filled (account.lowered r hr) hb).1
  refine ⟨runs, ?_, account.blocks, account.lowered, ?_, ?_, ?_⟩
  · rw [parts, Part.fields_ofForm]
  · rintro earlier r later rfl i b rule at_i
    rw [Run.rule_of_getElem (free (by simp)) at_i, ← account.ruled earlier r later rfl]
    split
    · exact ⟨fun h => ⟨‹_›, h⟩, fun h => h.2⟩
    · exact ⟨fun h => (Option.some_ne_none rule h.symm).elim, fun h => absurd h.1 ‹_›⟩
  · rintro earlier r later rfl rule ⟨_, _, _, refers⟩
    obtain ⟨b, hb, rfl⟩ := refers.mem
    exact ⟨b, hb, rfl⟩
  · rw [account.unresolved]
    exact List.filterMap_congr fun r hr => Run.unresolved?_eq (free hr)

/-- A source of ids that never repeats. -/
def tallies : IdSource := fun n => String.ofList (List.replicate (n + 1) 'x')

theorem tallies_nonempty : tallies.Nonempty := by
  intro n
  simp [tallies]

theorem tallies_injective : Function.Injective tallies := by
  intro n m same
  have counts := congrArg (fun s : String => s.toList.length) same
  simpa [tallies] using counts

/-- A form whose second question depends on its first one. -/
def petsForm : Form where
  title := "Pets"
  description := none
  sections := [⟨"Animals", none, [
    { Field.plain .checkboxes "Your pets" with options := [.text "Cat", .text "Other"] },
    { Field.plain .text "Which other pets?" with showIf := some "your pets = Other" },
    { Field.plain .text "Their names" with showIf := some "their names = Rex" }], []⟩]
  settings := none
  extras := []

theorem lower_conditions_pets : ∃ lowered m, petsForm.lower none tallies 0 = (.ok lowered, m) ∧
    lowered.unresolved = ["their names = Rex"] ∧
      ∃ runs, ConditionsKept tallies petsForm lowered runs := by
  have outcome : ((petsForm.lower none tallies 0).1.toOption.map Lowered.unresolved) =
      some ["their names = Rex"] := by
    decide +kernel
  cases h : petsForm.lower none tallies 0 with
  | mk result m =>
      rw [h] at outcome
      cases result with
      | error e => cases outcome
      | ok lowered =>
          exact ⟨lowered, m, rfl, Option.some.inj outcome,
            Form.lower_conditions tallies_nonempty h⟩

end PromptForm
