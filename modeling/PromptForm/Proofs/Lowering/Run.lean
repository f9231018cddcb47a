import Mathlib.Data.List.Basic
import PromptForm.Proofs.Condition.Reference
import PromptForm.Proofs.Lowering.Form

/-! # Runs

Lowering a form leaves a record of what each of its parts became. The record accounts for the blocks
of the form, for what the label map knows at every moment, and for the conditions that gave no rule.
-/

namespace PromptForm

namespace Part

def lower : Part → Draw (List Block)
  | filler s => do
    let block ← s.draw none
    return [block]
  | field f => f.lower

def cluster? : Part → Option Cluster
  | filler s => some (.alone s)
  | field f => f.cluster?

theorem lower_ok {p : Part} {ids : IdSource} (filled : ids.Nonempty) {n m : Nat}
    {blocks : List Block} (h : p.lower ids n = (.ok blocks, m)) :
    (blocks, m) = match p.cluster? with
      | some c => (c.blocks ids n, n + c.size)
      | none => ([], n) := by
  cases p with
  | filler s =>
      cases h
      rfl
  | field f => exact Field.lower_ok filled h

theorem mem_lower {p : Part} {ids : IdSource} (filled : ids.Nonempty) {n m : Nat}
    {blocks : List Block} (h : p.lower ids n = (.ok blocks, m)) {b : Block} (hb : b ∈ blocks) :
    b.payload.rule = none ∧ ∃ k, n ≤ k ∧ k < m ∧ b.uuid = ids k := by
  have made := lower_ok filled h
  cases found : p.cluster? with
  | none =>
      rw [found] at made
      cases made
      cases hb
  | some c =>
      rw [found] at made
      cases made
      exact Cluster.mem_blocks hb

theorem lower_forward {p : Part} {ids : IdSource} (filled : ids.Nonempty) {n m : Nat}
    {blocks : List Block} (h : p.lower ids n = (.ok blocks, m)) : n ≤ m := by
  have made := lower_ok filled h
  cases found : p.cluster? with
  | none =>
      rw [found] at made
      cases made
      exact Nat.le_refl n
  | some c =>
      rw [found] at made
      cases made
      exact Nat.le_add_right n c.size

end Part

/-- What a part of a form became. -/
structure Run where
  part : Part
  /-- The number of ids drawn before. -/
  start : Nat
  /-- The number of ids drawn after. -/
  stop : Nat
  /-- The blocks, without a rule. -/
  bare : List Block
  /-- The rule of the first block. -/
  rule : Option Rule

namespace Run

def blocks (r : Run) : List Block :=
  match r.bare, r.rule with
  | first :: others, some rule => first.withRule rule :: others
  | bare, _ => bare

/-- The keys that stand for the blocks from then on. -/
def keys (r : Run) : List String :=
  match r.part, r.bare with
  | .field f, _ :: _ => referenceKeys f.label
  | _, _ => []

def last? (r : Run) : Option String := r.bare.getLast?.map Block.uuid

/-- The condition under which the part is to be shown. -/
def condition? (r : Run) : Option String := r.part.field?.bind fun f => f.showIf.bind nonEmpty?

/-- The condition, if there are blocks but no rule for them. -/
def unresolved? (r : Run) : Option String :=
  if r.bare.isEmpty || r.rule.isSome then none else r.condition?

/-- The last run among several that has a key says which block stands for it. -/
def latest (runs : List Run) (key : String) : Option String :=
  (runs.reverse.find? fun r => r.keys.contains key).bind last?

/-- After some runs, a key stands for a block: the last one of the last run with the key. -/
def Stands (runs : List Run) (key target : String) : Prop :=
  ∃ before r after, runs = before ++ r :: after ∧ key ∈ r.keys ∧ (∀ s ∈ after, key ∉ s.keys) ∧
    r.last? = some target

/-- After some runs, a reference stands for a block: that of the first of its keys that any of the
runs has. -/
def Refers (runs : List Run) (reference target : String) : Prop :=
  ∃ before key after, referenceKeys reference = before ++ key :: after ∧
    (∀ j ∈ before, ∀ r ∈ runs, j ∉ r.keys) ∧ Stands runs key target

/-- The rule of a run that comes after others: its condition compares the block that it refers
to. -/
inductive RuleAfter (earlier : List Run) (r : Run) : Rule → Prop
  | intro {expr : String} {x : Expression} {target : String} : r.bare ≠ [] →
      r.condition? = some expr → Expression.parse? expr.toList = .ok (some x) →
      Refers earlier x.reference target → RuleAfter earlier r ⟨[⟨target, x.operator, x.value⟩]⟩

/-- The runs draw their ids one after the other. -/
def Chain (n : Nat) : List Run → Nat → Prop
  | [], m => n = m
  | r :: rest, m => r.start = n ∧ Chain r.stop rest m

theorem last?_of_mem_keys {r : Run} {key : String} (h : key ∈ r.keys) :
    ∃ target, r.last? = some target := by
  unfold keys at h
  split at h
  · rename_i first others _ bare
    rw [last?, bare, List.getLast?_cons]
    exact ⟨_, rfl⟩
  · cases h

theorem latest_append (runs : List Run) (r : Run) (key : String) :
    latest (runs ++ [r]) key = if key ∈ r.keys then r.last? else latest runs key := by
  by_cases h : key ∈ r.keys
  · simp [latest, h]
  · simp [latest, h]

theorem latest_eq_some_iff {runs : List Run} {key target : String} :
    latest runs key = some target ↔ Stands runs key target := by
  simp only [latest, Option.bind_eq_some_iff, List.find?_eq_some_iff_append,
    List.contains_iff_mem]
  constructor
  · rintro ⟨r, ⟨hk, after, before, split, missing⟩, last⟩
    refine ⟨before.reverse, r, after.reverse, ?_, hk, fun s hs => ?_, last⟩
    · rw [← List.reverse_reverse runs, split]
      simp
    · simpa using missing s (List.mem_reverse.mp hs)
  · rintro ⟨before, r, after, rfl, hk, missing, last⟩
    refine ⟨r, ⟨hk, after.reverse, before.reverse, by simp, fun s hs => ?_⟩, last⟩
    simpa using missing s (List.mem_reverse.mp hs)

theorem latest_eq_none_iff {runs : List Run} {key : String} :
    latest runs key = none ↔ ∀ r ∈ runs, key ∉ r.keys := by
  simp only [latest, Option.bind_eq_none_iff]
  constructor
  · intro h r hr hk
    cases found : runs.reverse.find? fun r => r.keys.contains key with
    | none => simpa [hk] using List.find?_eq_none.mp found r (List.mem_reverse.mpr hr)
    | some s =>
        have has : key ∈ s.keys := by simpa using List.find?_some found
        obtain ⟨target, last⟩ := last?_of_mem_keys has
        rw [h s found] at last
        cases last
  · intro h r found
    have has : key ∈ r.keys := by simpa using List.find?_some found
    exact absurd has (h r (List.mem_reverse.mp (List.mem_of_find?_eq_some found)))

end Run

theorem split_concat {α : Type} {as before after : List α} {a b : α}
    (h : as ++ [a] = before ++ b :: after) :
    (before = as ∧ b = a ∧ after = []) ∨
      ∃ rest, after = rest ++ [a] ∧ as = before ++ b :: rest := by
  rcases List.eq_nil_or_concat' after with rfl | ⟨rest, last, rfl⟩
  · obtain ⟨rfl, same⟩ := List.append_inj' h rfl
    cases same
    exact .inl ⟨rfl, rfl, rfl⟩
  · have regrouped : as ++ [a] = (before ++ b :: rest) ++ [last] := by simpa using h
    obtain ⟨rfl, same⟩ := List.append_inj' regrouped rfl
    cases same
    exact .inr ⟨rest, rfl, rfl⟩

/-- The runs of a form that has been lowered in part account for all of it. -/
structure Account (ids : IdSource) (runs : List Run) (s : Lowered) : Prop where
  blocks : s.blocks = runs.flatMap Run.blocks
  labels : ∀ key, LabelMap.get? s.labels key = Run.latest runs key
  unresolved : s.unresolved = runs.filterMap Run.unresolved?
  lowered : ∀ r ∈ runs, r.part.lower ids r.start = (.ok r.bare, r.stop)
  ruled : ∀ earlier r later, runs = earlier ++ r :: later →
    ∀ rule, r.rule = some rule ↔ Run.RuleAfter earlier r rule

namespace Account

open Run

variable {ids : IdSource} {runs : List Run} {s : Lowered}

theorem nil : Account ids [] Lowered.empty where
  blocks := rfl
  labels _ := rfl
  unresolved := rfl
  lowered r hr := by cases hr
  ruled earlier r later split := by simp at split

theorem last_id (filled : ids.Nonempty) (h : Account ids runs s) {r : Run} (hr : r ∈ runs)
    {target : String} (last : r.last? = some target) : target.isEmpty = false := by
  obtain ⟨b, hb, rfl⟩ := Option.map_eq_some_iff.mp last
  obtain ⟨k, _, _, id⟩ := (Part.mem_lower filled (h.lowered r hr) (List.mem_of_getLast? hb)).2
  rw [id]
  exact filled k

/-- The label map looks up what a reference stands for. -/
theorem lookup_iff (filled : ids.Nonempty) (h : Account ids runs s) {reference target : String} :
    s.labels.lookup reference = some target ↔ Refers runs reference target := by
  have ids_filled : ∀ key block, LabelMap.get? s.labels key = some block →
      block.isEmpty = false := by
    intro key block found
    rw [h.labels, latest_eq_some_iff] at found
    obtain ⟨before, r, after, rfl, _, _, last⟩ := found
    exact h.last_id filled (by simp) last
  rw [LabelMap.lookup_eq_some_iff ids_filled]
  simp only [h.labels, latest_eq_none_iff, latest_eq_some_iff, Refers]

/-- One more run is accounted for when its rule is the one that it has to have. -/
theorem append (h : Account ids runs s) {r : Run} {s' : Lowered}
    (blocks : s'.blocks = s.blocks ++ r.blocks)
    (labels : ∀ key, LabelMap.get? s'.labels key =
      if key ∈ r.keys then r.last? else LabelMap.get? s.labels key)
    (unresolved : s'.unresolved = s.unresolved ++ r.unresolved?.toList)
    (lowered : r.part.lower ids r.start = (.ok r.bare, r.stop))
    (ruled : ∀ rule, r.rule = some rule ↔ RuleAfter runs r rule) :
    Account ids (runs ++ [r]) s' where
  blocks := by rw [blocks, h.blocks, List.flatMap_append, List.flatMap_singleton]
  labels key := by rw [labels, latest_append, h.labels]
  unresolved := by
    rw [unresolved, h.unresolved, List.filterMap_append, List.filterMap_cons]
    cases r.unresolved? <;> rfl
  lowered t ht := by
    rcases List.mem_append.mp ht with ht | ht
    · exact h.lowered t ht
    · rw [List.mem_singleton] at ht
      subst ht
      exact lowered
  ruled earlier t later split := by
    rcases split_concat split with ⟨rfl, rfl, _⟩ | ⟨rest, _, rfl⟩
    · exact ruled
    · exact h.ruled earlier t rest rfl

theorem ruleAfter_iff (filled : ids.Nonempty) (h : Account ids runs s) {r : Run} {expr : String}
    {outcome : Option Rule} (bare : r.bare ≠ []) (condition : r.condition? = some expr)
    (resolved : s.labels.resolve expr = .ok outcome) (rule : Rule) :
    outcome = some rule ↔ RuleAfter runs r rule := by
  rw [LabelMap.resolve_ok resolved]
  constructor
  · rintro ⟨x, target, read, found, rfl⟩
    exact .intro bare condition read ((h.lookup_iff filled).mp found)
  · rintro ⟨_, same, read, refers⟩
    rw [condition] at same
    cases same
    exact ⟨_, _, read, (h.lookup_iff filled).mpr refers, rfl⟩

theorem not_ruleAfter {r : Run} (free : r.bare = [] ∨ r.condition? = none) (rule : Rule) :
    none = some rule ↔ RuleAfter runs r rule := by
  constructor
  · intro h
    cases h
  · rintro ⟨bare, condition, _, _⟩
    rcases free with free | free
    · exact absurd free bare
    · rw [free] at condition
      cases condition

/-- The label of a field that is added stands for the last one of its blocks. -/
theorem labels_addField (f : Field) (first : Block) (others : List Block) (key : String) :
    LabelMap.get? (s.addField f first others).labels key =
      if key ∈ referenceKeys f.label then some (others.getLast?.getD first).uuid
      else LabelMap.get? s.labels key := by
  cases h : f.label.isEmpty with
  | true =>
      have keys : referenceKeys f.label = [] := by
        rw [String.isEmpty_iff.mp h]
        rfl
      simp only [Lowered.addField, h, if_true, keys, List.not_mem_nil, if_false]
  | false =>
      simp only [Lowered.addField, h, Bool.false_eq_true, if_false]
      exact LabelMap.get?_register _ _ _ _

theorem addField (h : Account ids runs s) {f : Field} {n m : Nat} {first : Block}
    {others : List Block} {rule : Option Rule}
    (lowered : f.lower ids n = (.ok (first :: others), m))
    (ruled : ∀ rule', rule = some rule' ↔
      RuleAfter runs ⟨.field f, n, m, first :: others, rule⟩ rule')
    {shown : Block} (blocks : Run.blocks ⟨.field f, n, m, first :: others, rule⟩ = shown :: others)
    (uuid : shown.uuid = first.uuid)
    {unresolved : List String} (missed : unresolved = s.unresolved ++
      (unresolved? ⟨.field f, n, m, first :: others, rule⟩).toList) :
    Account ids (runs ++ [⟨.field f, n, m, first :: others, rule⟩])
      { s.addField f shown others with unresolved := unresolved } := by
  refine h.append ?_ (fun key => ?_) missed lowered ruled
  · rw [blocks]
    rfl
  · have last : last? ⟨.field f, n, m, first :: others, rule⟩ =
        some (others.getLast?.getD shown).uuid := by
      rw [last?, List.getLast?_cons, Option.map_some]
      cases others.getLast? with
      | none => exact congrArg some uuid.symm
      | some b => rfl
    rw [last]
    exact labels_addField f shown others key

/-- Lowering one more part adds its run. -/
theorem part (filled : ids.Nonempty) (h : Account ids runs s) {p : Part} {n m : Nat} {s' : Lowered}
    (step : s.part p ids n = (.ok s', m)) :
    ∃ r : Run, r.part = p ∧ r.start = n ∧ r.stop = m ∧ Account ids (runs ++ [r]) s' := by
  cases p with
  | filler sketch =>
      rw [Lowered.part, Draw.bind_ok (sketch.draw_none n)] at step
      cases step
      refine ⟨⟨.filler sketch, n, n + 2, [sketch.block (ids n) (ids (n + 1))], none⟩, rfl, rfl, rfl,
        h.append rfl (fun key => ?_) (List.append_nil _).symm rfl (not_ruleAfter (.inr rfl))⟩
      exact (if_neg List.not_mem_nil).symm
  | field f =>
      obtain ⟨bare, k, lowered, rest⟩ := Draw.of_bind_ok step
      cases bare with
      | nil =>
          cases rest
          refine ⟨⟨.field f, n, m, [], none⟩, rfl, rfl, rfl,
            h.append (List.append_nil _).symm (fun key => ?_) (List.append_nil _).symm lowered
              (not_ruleAfter (.inl rfl))⟩
          exact (if_neg List.not_mem_nil).symm
      | cons first others =>
          cases condition : f.showIf.bind nonEmpty? with
          | none =>
              simp only [condition] at rest
              cases rest
              have missed : unresolved? ⟨.field f, n, m, first :: others, none⟩ = none := condition
              exact ⟨_, rfl, rfl, rfl, h.addField lowered (not_ruleAfter (.inr condition)) rfl rfl
                (by rw [missed]; exact (List.append_nil _).symm)⟩
          | some expr =>
              simp only [condition] at rest
              obtain ⟨outcome, k', resolved, rest⟩ := Draw.of_bind_ok rest
              cases resolved' : s.labels.resolve expr with
              | error e => simp [resolved', Draw.ofExcept] at resolved
              | ok outcome' =>
                  rw [resolved'] at resolved
                  cases resolved
                  have ruled := h.ruleAfter_iff filled
                    (r := ⟨.field f, n, k, first :: others, outcome⟩) (List.cons_ne_nil _ _)
                    condition resolved'
                  cases outcome with
                  | none =>
                      cases rest
                      have missed : unresolved? ⟨.field f, n, m, first :: others, none⟩ =
                        some expr := condition
                      exact ⟨_, rfl, rfl, rfl,
                        h.addField lowered ruled rfl rfl (by rw [missed]; rfl)⟩
                  | some rule =>
                      cases rest
                      exact ⟨_, rfl, rfl, rfl, h.addField lowered ruled rfl rfl
                        (List.append_nil _).symm⟩

theorem parts (filled : ids.Nonempty) (h : Account ids runs s) {ps : List Part} {n m : Nat}
    {s' : Lowered} (steps : s.parts ps ids n = (.ok s', m)) :
    ∃ more : List Run, more.map Run.part = ps ∧ Chain n more m ∧ Account ids (runs ++ more) s' := by
  induction ps generalizing runs s n with
  | nil =>
      cases steps
      exact ⟨[], rfl, rfl, by rwa [List.append_nil]⟩
  | cons p ps ih =>
      obtain ⟨next, k, step, rest⟩ := Draw.of_bind_ok steps
      obtain ⟨r, rfl, rfl, rfl, account⟩ := h.part filled step
      obtain ⟨more, rfl, chain, account⟩ := ih account rest
      refine ⟨r :: more, rfl, ⟨rfl, chain⟩, ?_⟩
      rwa [List.append_assoc] at account

end Account

/-- A form that has been lowered has a run for each of its parts. -/
theorem Form.lower_account {form : Form} {attribution : Option String} {ids : IdSource}
    (filled : ids.Nonempty) {n m : Nat} {lowered : Lowered}
    (h : form.lower attribution ids n = (.ok lowered, m)) :
    ∃ runs : List Run, runs.map Run.part = Part.ofForm form attribution ∧
      Run.Chain n runs m ∧ Account ids runs lowered := by
  rw [Form.lower_eq] at h
  obtain ⟨runs, parts, chain, account⟩ := Account.nil.parts filled h
  exact ⟨runs, parts, chain, account⟩

end PromptForm
