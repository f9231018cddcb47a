import PromptForm.Proofs.Lowering.Conditions
import PromptForm.Proofs.Outline.Line

/-! # What conditions are resolved to

When every field of a form gives blocks, the fields say which conditions are resolved and to what:
a condition is resolved when it refers to a label before, and it is resolved to a field when it
refers to the label of the field and no later label stands for the same key.
-/

namespace PromptForm

/-- A list is split in one way only at a member that no other one is like. -/
theorem split_unique {α : Type} {P : α → Prop} {as : List α}
    (apart : as.Pairwise fun a b => ¬ (P a ∧ P b)) {before after before' after' : List α} {a a' : α}
    (split : as = before ++ a :: after) (split' : as = before' ++ a' :: after') (ha : P a)
    (ha' : P a') : before = before' ∧ a = a' ∧ after = after' := by
  induction before generalizing as before' with
  | nil =>
      subst split
      rcases List.cons_eq_append_iff.mp split' with ⟨rfl, same⟩ | ⟨_, rfl, rest⟩
      · cases same
        exact ⟨rfl, rfl, rfl⟩
      · have other := (List.pairwise_cons.mp apart).1 a' (by simp [rest])
        exact absurd ⟨ha, ha'⟩ other
  | cons b before ih =>
      subst split
      rcases List.cons_eq_append_iff.mp split' with ⟨rfl, same⟩ | ⟨before', rfl, rest⟩
      · cases same
        have other := (List.pairwise_cons.mp apart).1 a (by simp)
        exact absurd ⟨ha', ha⟩ other
      · obtain ⟨rfl, rfl, rfl⟩ := ih (List.pairwise_cons.mp apart).2 rfl rest
        exact ⟨rfl, rfl, rfl⟩

namespace Run

variable {runs : List Run} {r : Run}

/-- The fields among the parts of runs. -/
def fields (runs : List Run) : List Field := runs.filterMap fun r => r.part.field?

theorem field?_eq_some {p : Part} {f : Field} (h : p.field? = some f) : p = .field f := by
  cases p with
  | filler s => cases h
  | field g =>
      cases h
      rfl

theorem split_fields {before after : List Field} {f : Field}
    (h : fields runs = before ++ f :: after) : ∃ earlier r later, runs = earlier ++ r :: later ∧
      fields earlier = before ∧ r.part = .field f ∧ fields later = after := by
  obtain ⟨earlier, rest, rfl, front, back⟩ := List.filterMap_eq_append_iff.mp h
  obtain ⟨passed, r, later, rfl, none_passed, found, last⟩ := List.filterMap_eq_cons_iff.mp back
  refine ⟨earlier ++ passed, r, later, by simp, ?_, field?_eq_some found, last⟩
  have skipped : fields passed = [] := List.filterMap_eq_nil_iff.mpr none_passed
  rw [fields, List.filterMap_append]
  exact (congrArg₂ _ front skipped).trans (List.append_nil before)

theorem fields_split (earlier later : List Run) {f : Field} (part : r.part = .field f) :
    fields (earlier ++ r :: later) = fields earlier ++ f :: fields later := by
  have found : r.part.field? = some f := by rw [part]; rfl
  simp only [fields, List.filterMap_append, List.filterMap_cons, found]

theorem keys_eq {f : Field} (part : r.part = .field f) (kept : r.bare ≠ []) :
    r.keys = referenceKeys f.label := by
  unfold keys
  split
  · rename_i g _ _ part' _
    rw [part] at part'
    cases part'
    rfl
  · rename_i none_left
    cases bare : r.bare with
    | nil => exact absurd bare kept
    | cons first others => exact absurd bare (none_left f first others part)

/-- Keys of runs are keys of labels. -/
theorem mem_keys_iff (kept : ∀ r ∈ runs, r.bare ≠ []) (key : String) :
    (∃ r ∈ runs, key ∈ r.keys) ↔ ∃ f ∈ fields runs, key ∈ referenceKeys f.label := by
  simp only [fields, List.mem_filterMap]
  constructor
  · rintro ⟨r, hr, hk⟩
    cases part : r.part with
    | filler s => simp [keys, part] at hk
    | field f => exact ⟨f, ⟨r, hr, by rw [part]; rfl⟩, keys_eq part (kept r hr) ▸ hk⟩
  · rintro ⟨f, ⟨r, hr, found⟩, hk⟩
    exact ⟨r, hr, keys_eq (field?_eq_some found) (kept r hr) ▸ hk⟩

theorem not_mem_keys_iff (kept : ∀ r ∈ runs, r.bare ≠ []) (key : String) :
    (∀ r ∈ runs, key ∉ r.keys) ↔ ∀ f ∈ fields runs, key ∉ referenceKeys f.label := by
  have some_key := not_congr (mem_keys_iff kept key)
  simpa only [not_exists, not_and] using some_key

/-- A run with a condition gets a rule when the condition refers to a label before. -/
theorem ruleAfter_iff_isKnown {earlier : List Run} (kept : ∀ r ∈ earlier, r.bare ≠ [])
    (bare : r.bare ≠ []) {expr : String} (condition : r.condition? = some expr) :
    (∃ rule, RuleAfter earlier r rule) ↔
      isKnown ((fields earlier).map Field.label) expr = true := by
  rw [isKnown_iff]
  constructor
  · rintro ⟨_, _, written, read, refers⟩
    rw [condition] at written
    cases written
    obtain ⟨front, key, back, split, _, before, s, after, rfl, hk, _⟩ := refers
    obtain ⟨f, hf, known⟩ := (mem_keys_iff kept _).mp ⟨s, by simp, hk⟩
    exact ⟨_, read, f.label, List.mem_map_of_mem hf, key, by simp [split], known⟩
  · rintro ⟨x, read, label, labels, key, listed, known⟩
    obtain ⟨f, hf, rfl⟩ := List.mem_map.mp labels
    obtain ⟨s, hs, hk⟩ := (mem_keys_iff kept _).mpr ⟨f, hf, known⟩
    have found : ((referenceKeys x.reference).findSome? (latest earlier)).isSome = true := by
      rw [List.findSome?_isSome_iff]
      refine ⟨key, listed, ?_⟩
      rw [Option.isSome_iff_ne_none, ne_eq, latest_eq_none_iff]
      exact fun missing => missing s hs hk
    obtain ⟨target, first⟩ := Option.isSome_iff_exists.mp found
    obtain ⟨front, key', back, split, stands, missing⟩ := List.findSome?_eq_some_iff.mp first
    exact ⟨_, .intro bare condition read ⟨front, key', back, split,
      fun j hj => latest_eq_none_iff.mp (missing j hj), latest_eq_some_iff.mp stands⟩⟩

/-- Runs draw different ids, so they differ in their last blocks. -/
theorem last?_apart {ids : IdSource} (filled : ids.Nonempty) (injective : Function.Injective ids)
    {n m : Nat} (chain : Chain n runs m)
    (lowered : ∀ r ∈ runs, r.part.lower ids r.start = (.ok r.bare, r.stop)) (target : String) :
    runs.Pairwise fun r s => ¬ (r.last? = some target ∧ s.last? = some target) := by
  have drawn {r : Run} (made : r.part.lower ids r.start = (.ok r.bare, r.stop))
      (last : r.last? = some target) : ∃ k, r.start ≤ k ∧ k < r.stop ∧ target = ids k := by
    obtain ⟨b, hb, rfl⟩ := Option.map_eq_some_iff.mp last
    exact (Part.mem_lower filled made (List.mem_of_getLast? hb)).2
  -- What a run draws comes after what the runs before it draw.
  have above {n m : Nat} {runs : List Run} (chain : Chain n runs m)
      (lowered : ∀ r ∈ runs, r.part.lower ids r.start = (.ok r.bare, r.stop)) :
      ∀ r ∈ runs, n ≤ r.start := by
    induction runs generalizing n with
    | nil => exact List.forall_mem_nil _
    | cons r rest ih =>
        obtain ⟨rfl, chain⟩ := chain
        have forward := Part.lower_forward filled (lowered r List.mem_cons_self)
        intro s hs
        rcases List.mem_cons.mp hs with rfl | hs
        · exact Nat.le_refl _
        · have others := fun r hr => lowered r (List.mem_cons_of_mem _ hr)
          exact Nat.le_trans forward (ih chain others s hs)
  induction runs generalizing n with
  | nil => exact List.Pairwise.nil
  | cons r rest ih =>
      obtain ⟨rfl, chain⟩ := chain
      have others : ∀ s ∈ rest, s.part.lower ids s.start = (.ok s.bare, s.stop) :=
        fun s hs => lowered s (List.mem_cons_of_mem _ hs)
      refine List.pairwise_cons.mpr ⟨fun s hs both => ?_, ih chain others⟩
      obtain ⟨j, _, low, rfl⟩ := drawn (lowered r List.mem_cons_self) both.1
      obtain ⟨k, high, _, same⟩ := drawn (others s hs) both.2
      have order := above chain others s hs
      have equal := injective same
      omega

/-- A reference stands for the last block of a run when the first of its keys that is there is one of
the run and of no later one. -/
theorem refers_iff {earlier between : List Run} {s : Run} {source : Field}
    (kept : ∀ r ∈ earlier ++ s :: between, r.bare ≠ [])
    (apart : ∀ target, (earlier ++ s :: between).Pairwise fun r t =>
      ¬ (r.last? = some target ∧ t.last? = some target))
    (part : s.part = .field source) (reference : String) :
    (∃ target, s.last? = some target ∧ Refers (earlier ++ s :: between) reference target) ↔
      ∃ front key back, referenceKeys reference = front ++ key :: back ∧
        (∀ j ∈ front, ∀ f ∈ fields earlier ++ source :: fields between,
          j ∉ referenceKeys f.label) ∧
        key ∈ referenceKeys source.label ∧ ∀ f ∈ fields between, key ∉ referenceKeys f.label := by
  have kept_between : ∀ r ∈ between, r.bare ≠ [] := fun r hr => kept r (by simp [hr])
  have keys : s.keys = referenceKeys source.label := keys_eq part (kept s (by simp))
  simp only [← fields_split earlier between part, ← not_mem_keys_iff kept,
    ← not_mem_keys_iff kept_between, ← keys]
  constructor
  · rintro ⟨target, last, front, key, back, split, none_front, stands⟩
    obtain ⟨before, t, after, split', hk, none_after, last'⟩ := stands
    obtain ⟨rfl, rfl, rfl⟩ := split_unique (apart target) rfl split' last last'
    exact ⟨front, key, back, split, none_front, hk, none_after⟩
  · rintro ⟨front, key, back, split, none_front, hk, none_between⟩
    obtain ⟨target, last⟩ := last?_of_mem_keys hk
    exact ⟨target, last, front, key, back, split, none_front, earlier, s, between, rfl, hk,
      none_between, last⟩

/-- The first block of a run depends on the answer in the last block of another one. -/
def DependsOn (r s : Run) : Prop :=
  ∃ first rule target, r.blocks.head? = some first ∧ first.payload.rule = some rule ∧
    rule.conditions.map Condition.target = [target] ∧ s.blocks.getLast?.map Block.uuid = some target

theorem getLast?_blocks (r : Run) : r.blocks.getLast?.map Block.uuid = r.last? := by
  unfold blocks last?
  split
  · rename_i first others rule bare _
    rw [bare]
    cases others with
    | nil => rfl
    | cons second others => rw [List.getLast?_cons_cons, List.getLast?_cons_cons]
  · rfl

/-- What a run depends on ends with one block. -/
theorem DependsOn.shared {r s t : Run} (h : r.DependsOn s) (h' : r.DependsOn t) :
    ∃ target, s.last? = some target ∧ t.last? = some target := by
  obtain ⟨first, rule, target, head, ruled, compares, last⟩ := h
  obtain ⟨first', rule', target', head', ruled', compares', last'⟩ := h'
  rw [head] at head'
  cases head'
  rw [ruled] at ruled'
  cases ruled'
  rw [compares] at compares'
  cases compares'
  exact ⟨target, by rw [← getLast?_blocks, last], by rw [← getLast?_blocks, last']⟩

end Run

/-- A condition refers to a field: the first of the keys of its reference that any field before has
is a key of the field, and no later field has that key. -/
def Reaches (before : List Field) (source : Field) (middle : List Field) (expr : String) : Prop :=
  ∃ x front key back, Expression.parse? expr.toList = .ok (some x) ∧
    referenceKeys x.reference = front ++ key :: back ∧
    (∀ j ∈ front, ∀ f ∈ before ++ source :: middle, j ∉ referenceKeys f.label) ∧
    key ∈ referenceKeys source.label ∧ ∀ f ∈ middle, key ∉ referenceKeys f.label

theorem Reaches.isKnown {before middle : List Field} {source : Field} {expr : String}
    (h : Reaches before source middle expr) :
    isKnown ((before ++ source :: middle).map Field.label) expr = true := by
  obtain ⟨x, front, key, back, read, split, _, hk, _⟩ := h
  exact isKnown_iff.mpr ⟨x, read, source.label, by simp, key, by simp [split], hk⟩

namespace Account

open Run

variable {ids : IdSource} {runs : List Run} {lowered : Lowered}

theorem head?_blocks (filled : ids.Nonempty) (h : Account ids runs lowered) {r : Run}
    (hr : r ∈ runs) {rule : Rule} : (∃ first, r.blocks.head? = some first ∧
      first.payload.rule = some rule) ↔ r.bare ≠ [] ∧ r.rule = some rule := by
  have free : ∀ b ∈ r.bare, b.payload.rule = none :=
    fun b hb => (Part.mem_lower filled (h.lowered r hr) hb).1
  rw [← List.isEmpty_eq_false_iff, ← blocks_isEmpty]
  cases blocks : r.blocks with
  | nil => simp
  | cons first others =>
      have at_first := rule_of_getElem free (i := 0) (by rw [blocks]; rfl)
      simp [at_first]

theorem unresolved_eq_nil (h : Account ids runs lowered) (kept : ∀ r ∈ runs, r.bare ≠ [])
    (known : ∀ before f after, fields runs = before ++ f :: after →
      ∀ expr, f.showIf.bind nonEmpty? = some expr →
        isKnown (before.map Field.label) expr = true) : lowered.unresolved = [] := by
  rw [h.unresolved, List.filterMap_eq_nil_iff]
  intro r hr
  cases condition : r.condition? with
  | none => simp [unresolved?, condition]
  | some expr =>
      obtain ⟨earlier, later, split⟩ := List.append_of_mem hr
      obtain ⟨f, part, written⟩ := Option.bind_eq_some_iff.mp condition
      have at_f := fields_split earlier later (field?_eq_some part)
      have refers := known _ f _ (split ▸ at_f) expr written
      have before : ∀ s ∈ earlier, s.bare ≠ [] := fun s hs => kept s (by simp [split, hs])
      obtain ⟨rule, after⟩ := (ruleAfter_iff_isKnown before (kept r hr) condition).mpr refers
      have ruled := (h.ruled earlier r later split rule).mpr after
      simp [unresolved?, ruled]

/-- A field with a condition depends on the field that the reference of the condition stands for. -/
theorem dependsOn (filled : ids.Nonempty) (h : Account ids runs lowered)
    {earlier later : List Run} {s r : Run} (split : runs = earlier ++ r :: later) (kept : r.bare ≠ [])
    {expr target : String} {x : Expression} (condition : r.condition? = some expr)
    (read : Expression.parse? expr.toList = .ok (some x)) (last : s.last? = some target)
    (meant : Refers earlier x.reference target) : r.DependsOn s := by
  have ruled := (h.ruled earlier r later split _).mpr (.intro kept condition read meant)
  obtain ⟨first, head, has_rule⟩ := (h.head?_blocks filled (by simp [split])).mpr ⟨kept, ruled⟩
  exact ⟨first, _, target, head, has_rule, rfl, by rw [getLast?_blocks, last]⟩

/-- A field depends on the field that its condition reaches. -/
theorem dependsOn_iff (filled : ids.Nonempty) (h : Account ids runs lowered)
    (kept : ∀ r ∈ runs, r.bare ≠ [])
    (apart : ∀ target, runs.Pairwise fun r s => ¬ (r.last? = some target ∧ s.last? = some target))
    {earlier between later : List Run} {s r : Run} {source f : Field}
    (split : runs = (earlier ++ s :: between) ++ r :: later) (from_source : s.part = .field source)
    (part : r.part = .field f) {expr : String} (written : f.showIf.bind nonEmpty? = some expr) :
    r.DependsOn s ↔ Reaches (fields earlier) source (fields between) expr := by
  have hr : r ∈ runs := by simp [split]
  have condition : r.condition? = some expr := by rw [condition?, part]; exact written
  have refers := refers_iff
    (fun r hr => kept r (by rw [split]; exact List.mem_append_left _ hr))
    (fun target => (List.pairwise_append.mp (split ▸ apart target)).1) from_source
  constructor
  · rintro ⟨first, rule, target, head, has_rule, compares, last⟩
    have ruled := ((h.head?_blocks filled hr).mp ⟨first, head, has_rule⟩).2
    obtain ⟨_, same, read, meant⟩ := (h.ruled _ r later split rule).mp ruled
    rw [condition] at same
    cases same
    cases compares
    rw [getLast?_blocks] at last
    obtain ⟨front, key, back, reached⟩ := (refers _).mp ⟨_, last, meant⟩
    exact ⟨_, front, key, back, read, reached⟩
  · rintro ⟨x, front, key, back, read, reached⟩
    obtain ⟨target, last, meant⟩ := (refers x.reference).mpr ⟨front, key, back, reached⟩
    exact h.dependsOn filled split (kept r hr) condition read last meant

theorem bare_ne_nil_of_cluster? (filled : ids.Nonempty) (h : Account ids runs lowered) {r : Run}
    (hr : r ∈ runs) {c : Cluster} (found : r.part.cluster? = some c) : r.bare ≠ [] := by
  have made := Part.lower_ok filled (h.lowered r hr)
  rw [found] at made
  rw [(Prod.mk.inj made).1]
  exact c.blocks_ne_nil r.start

theorem bare_ne_nil (filled : ids.Nonempty) (h : Account ids runs lowered)
    (usual : ∀ f ∈ fields runs, f.Usual) : ∀ r ∈ runs, r.bare ≠ [] := by
  intro r hr
  have found : ∃ c, r.part.cluster? = some c := by
    cases part : r.part with
    | filler sketch => exact ⟨_, rfl⟩
    | field f => exact (usual f (List.mem_filterMap.mpr ⟨r, hr, by rw [part]; rfl⟩)).cluster?
  obtain ⟨c, found⟩ := found
  exact h.bare_ne_nil_of_cluster? filled hr found

end Account

end PromptForm
