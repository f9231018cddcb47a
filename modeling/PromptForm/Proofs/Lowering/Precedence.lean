import PromptForm.Proofs.Condition.Expression
import PromptForm.Proofs.Lowering.Resolution
import PromptForm.Proofs.Text.Line

/-! # References to labels as they are

A field is found under its label, apart from case and the amount of white space, and under the slug
of its label. Both are keys of one map, in which a later field takes over the keys of earlier ones. So
a reference to a label as it is leads to the last field with the label, or to a later one whose label
has the reference for its slug.
-/

namespace PromptForm

/-- What a label is compared by: the label in lowercase, without white space around it and with
single spaces in it. -/
def plainKey (label : String) : String :=
  onText (fun cs => Text.collapseBlanks (Text.lower (Text.trim cs))) label

theorem referenceKeys_def (label : String) :
    referenceKeys label = if (plainKey label).isEmpty then []
      else if (slugged (plainKey label)).isEmpty || slugged (plainKey label) == plainKey label
        then [plainKey label] else [plainKey label, slugged (plainKey label)] := rfl

theorem referenceKeys_eq {label : String} (shown : (plainKey label).isEmpty = false) :
    ∃ others, referenceKeys label = plainKey label :: others := by
  rw [referenceKeys_def, shown, if_neg Bool.false_ne_true]
  split
  · exact ⟨_, rfl⟩
  · exact ⟨_, rfl⟩

/-- A label has a key if the key is the label as it is, or its slug. -/
theorem mem_referenceKeys {label key : String} (shown : key.isEmpty = false) :
    key ∈ referenceKeys label ↔ plainKey label = key ∨ slugged (plainKey label) = key := by
  have filled : key ≠ "" := by
    rintro rfl
    cases shown
  rw [referenceKeys_def]
  cases empty : (plainKey label).isEmpty with
  | true =>
      have no_slug : slugged "" = "" := by decide
      rw [String.isEmpty_iff.mp empty, no_slug]
      simp [filled.symm]
  | false =>
      rw [if_neg Bool.false_ne_true]
      split
      · rename_i same
        simp only [Bool.or_eq_true, String.isEmpty_iff, beq_iff_eq] at same
        rcases same with same | same
        · simp [same, filled.symm, eq_comm]
        · simp [same, eq_comm]
      · simp [eq_comm]

/-- An expression that can be read refers to something. -/
theorem Expression.plainKey_reference {expr : List Char} {x : Expression}
    (read : parse? expr = .ok (some x)) : (plainKey x.reference).isEmpty = false := by
  obtain ⟨passed, reference, shown⟩ := parse?_reference read
  have trimmed : Text.trim x.reference.toList ≠ [] := by rwa [reference, Text.trim_trim]
  have collapsed : Text.collapseBlanks (Text.lower (Text.trim x.reference.toList)) ≠ [] := by
    cases lowered : Text.lower (Text.trim x.reference.toList) with
    | nil => exact absurd lowered (Text.lower_ne_nil trimmed)
    | cons c rest =>
        rw [Text.collapseBlanks, Text.collapseFrom]
        split <;> exact List.cons_ne_nil _ _
  simpa [plainKey, onText] using collapsed

namespace Run

variable {r : Run}

/-- A field that became blocks, and whose label a reference names as it is. -/
def Labelled (r : Run) (reference : String) : Prop :=
  ∃ f, r.part = .field f ∧ r.blocks ≠ [] ∧ plainKey f.label = plainKey reference

/-- A field that became blocks, and whose label has what a reference names for its slug. -/
def Aliased (r : Run) (reference : String) : Prop :=
  ∃ f, r.part = .field f ∧ r.blocks ≠ [] ∧ slugged (plainKey f.label) = plainKey reference

/-- A field that became blocks, with a condition that can be read. -/
def Expresses (r : Run) (x : Expression) : Prop :=
  r.blocks ≠ [] ∧ ∃ expr, r.condition? = some expr ∧ Expression.parse? expr.toList = .ok (some x)

theorem bare_ne_nil_iff : r.bare ≠ [] ↔ r.blocks ≠ [] := by
  rw [← List.isEmpty_eq_false_iff, ← List.isEmpty_eq_false_iff, blocks_isEmpty]

theorem mem_keys_iff_labelled {reference : String}
    (shown : (plainKey reference).isEmpty = false) :
    plainKey reference ∈ r.keys ↔ r.Labelled reference ∨ r.Aliased reference := by
  constructor
  · intro has
    have kept : r.blocks ≠ [] := by
      obtain ⟨target, last⟩ := last?_of_mem_keys has
      rw [← bare_ne_nil_iff]
      intro bare
      rw [last?, bare] at last
      cases last
    cases part : r.part with
    | filler s =>
        unfold keys at has
        rw [part] at has
        cases has
    | field f =>
        rw [keys_eq part (bare_ne_nil_iff.mpr kept), mem_referenceKeys shown] at has
        exact has.imp (fun same => ⟨f, part, kept, same⟩) fun same => ⟨f, part, kept, same⟩
  · rintro (⟨f, part, kept, same⟩ | ⟨f, part, kept, same⟩)
    · rw [keys_eq part (bare_ne_nil_iff.mpr kept), mem_referenceKeys shown]
      exact .inl same
    · rw [keys_eq part (bare_ne_nil_iff.mpr kept), mem_referenceKeys shown]
      exact .inr same

end Run

namespace Account

open Run

variable {ids : IdSource} {runs : List Run} {lowered : Lowered}

/-- A field depends on the last one before it that its reference names, as a label or as a slug. -/
theorem dependsOn_latest (filled : ids.Nonempty) (h : Account ids runs lowered)
    {front back later : List Run} {t r : Run} {x : Expression}
    (split : runs = (front ++ t :: back) ++ r :: later) (expresses : r.Expresses x)
    (named : t.Labelled x.reference ∨ t.Aliased x.reference)
    (last : ∀ u ∈ back, ¬ u.Labelled x.reference ∧ ¬ u.Aliased x.reference) : r.DependsOn t := by
  obtain ⟨kept, expr, condition, read⟩ := expresses
  have shown := Expression.plainKey_reference read
  obtain ⟨others, keys⟩ := referenceKeys_eq shown
  have has := (mem_keys_iff_labelled shown).mpr named
  obtain ⟨target, stands⟩ := last?_of_mem_keys has
  refine h.dependsOn filled split (bare_ne_nil_iff.mpr kept) condition read stands ?_
  refine ⟨[], _, others, keys, List.forall_mem_nil _, front, t, back, rfl, has, fun u hu => ?_, stands⟩
  rw [mem_keys_iff_labelled shown, not_or]
  exact last u hu

end Account

/-- A condition that refers to a label as it is gives a rule. The rule compares the answer to the last
field before that has the label, unless the label of a field in between has the text of the reference
for its slug; then it compares the answer to the last field of that kind. -/
theorem Form.lower_precedence {form : Form} {attribution : Option String} {ids : IdSource}
    (filled : ids.Nonempty) {n m : Nat} {lowered : Lowered}
    (h : form.lower attribution ids n = (.ok lowered, m)) :
    ∃ runs, runs.map Run.part = Part.ofForm form attribution ∧ Account ids runs lowered ∧
      ∀ before s between r later x, runs = (before ++ s :: between) ++ r :: later →
        r.Expresses x → s.Labelled x.reference → (∀ t ∈ between, ¬ t.Labelled x.reference) →
          ((∀ t ∈ between, ¬ t.Aliased x.reference) → r.DependsOn s) ∧
          ∀ front t back, between = front ++ t :: back → t.Aliased x.reference →
            (∀ u ∈ back, ¬ u.Aliased x.reference) → r.DependsOn t := by
  obtain ⟨runs, parts, _, account⟩ := lower_account filled h
  refine ⟨runs, parts, account, fun before s between r later x split expresses named others => ?_⟩
  constructor
  · intro unaliased
    exact account.dependsOn_latest filled split expresses (.inl named)
      fun u hu => ⟨others u hu, unaliased u hu⟩
  · rintro front t back rfl aliased last
    have split' : runs = ((before ++ s :: front) ++ t :: back) ++ r :: later := by
      rw [split]
      simp
    exact account.dependsOn_latest filled split' expresses (.inr aliased)
      fun u hu => ⟨others u (by simp [hu]), last u hu⟩

/-- A form with a condition that refers to its first label as it is, and to its second one by the
slug. -/
def phoneForm : Form where
  title := "T"
  description := none
  sections := [⟨"A", none, [Field.plain .text "phone_number", Field.plain .text "Phone Number",
    { Field.plain .text "Why" with showIf := some "phone_number = 1" }], []⟩]
  settings := none
  extras := []

theorem phoneForm_runs {runs : List Run} {lowered : Lowered}
    (parts : runs.map Run.part = Part.ofForm phoneForm none)
    (account : Account tallies runs lowered) :
    ∃ before s t r later x, runs = (before ++ s :: [t]) ++ r :: later ∧ r.Expresses x ∧
      s.Labelled x.reference ∧ ¬ t.Labelled x.reference ∧ t.Aliased x.reference := by
  have listed : Part.ofForm phoneForm none = [.filler (.formTitle "T"), .filler (.heading "A" 2),
      .field (.plain .text "phone_number"), .field (.plain .text "Phone Number"),
      .field { Field.plain .text "Why" with showIf := some "phone_number = 1" },
      .filler (.text defaultAttribution)] := rfl
  simp only [listed, List.map_eq_cons_iff, List.map_eq_nil_iff] at parts
  obtain ⟨title, _, rfl, _, heading, _, rfl, _, s, _, rfl, first, t, _, rfl, second, r, _, rfl, third,
    closing, _, rfl, _, rfl⟩ := parts
  have shown {u : Run} (hu : u ∈ [title, heading, s, t, r, closing]) {f : Field}
      (part : u.part = .field f) {c : Cluster} (found : f.cluster? = some c) : u.blocks ≠ [] := by
    rw [← Run.bare_ne_nil_iff]
    have drawn : u.part.cluster? = some c := by rw [part]; exact found
    exact account.bare_ne_nil_of_cluster? tallies_nonempty hu drawn
  have expression : Expression.parse? "phone_number = 1".toList =
      .ok (some ⟨"phone_number", .equal, .number (.int 1)⟩) := by
    decide +kernel
  refine ⟨[title, heading], s, t, r, [closing], _, rfl, ⟨shown (by simp) third rfl, _, ?_, expression⟩,
    ⟨_, first, shown (by simp) first rfl, rfl⟩, ?_, ⟨_, second, shown (by simp) second rfl, ?_⟩⟩
  · rw [Run.condition?, third]
    rfl
  · rintro ⟨f, part, _, same⟩
    obtain rfl : Field.plain .text "Phone Number" = f := Part.field.inj (second.symm.trans part)
    exact absurd same (by decide +kernel)
  · decide +kernel

theorem lower_precedence_phone : ∃ lowered m runs before s t r later x,
    phoneForm.lower none tallies 0 = (.ok lowered, m) ∧ Account tallies runs lowered ∧
    runs = (before ++ s :: [t]) ++ r :: later ∧ r.Expresses x ∧ s.Labelled x.reference ∧
    t.Aliased x.reference ∧ r.DependsOn t := by
  have outcome : (phoneForm.lower none tallies 0).1.toOption.map Lowered.unresolved = some [] := by
    decide +kernel
  obtain ⟨lowered, m, made, _⟩ := Draw.exists_of_toOption outcome
  obtain ⟨runs, parts, account, precedence⟩ := Form.lower_precedence tallies_nonempty made
  obtain ⟨before, s, t, r, later, x, split, expresses, named, other, aliased⟩ :=
    phoneForm_runs parts account
  have others : ∀ u ∈ [t], ¬ u.Labelled x.reference := List.forall_mem_singleton.mpr other
  have depends := (precedence before s [t] r later x split expresses named others).2 [] t [] rfl
    aliased (List.forall_mem_nil _)
  exact ⟨lowered, m, runs, before, s, t, r, later, x, made, account, split, expresses, named, aliased,
    depends⟩

/-- Being the last field with the label that a condition names as it is does not suffice. -/
theorem not_dependsOn_phone : ∃ lowered m runs before s between r later x,
    phoneForm.lower none tallies 0 = (.ok lowered, m) ∧
    runs.map Run.part = Part.ofForm phoneForm none ∧ Account tallies runs lowered ∧
    runs = (before ++ s :: between) ++ r :: later ∧ r.Expresses x ∧ s.Labelled x.reference ∧
    (∀ t ∈ between, ¬ t.Labelled x.reference) ∧ ¬ r.DependsOn s := by
  have outcome : (phoneForm.lower none tallies 0).1.toOption.map Lowered.unresolved = some [] := by
    decide +kernel
  obtain ⟨lowered, m, made, _⟩ := Draw.exists_of_toOption outcome
  obtain ⟨runs, parts, chain, account⟩ := Form.lower_account tallies_nonempty made
  obtain ⟨before, s, t, r, later, x, split, expresses, named, other, aliased⟩ :=
    phoneForm_runs parts account
  have others : ∀ u ∈ [t], ¬ u.Labelled x.reference := List.forall_mem_singleton.mpr other
  have split' : runs = ((before ++ [s]) ++ t :: []) ++ r :: later := by
    rw [split]
    simp
  have depends := account.dependsOn_latest tallies_nonempty split' expresses (.inr aliased)
    (List.forall_mem_nil _)
  refine ⟨lowered, m, runs, before, s, [t], r, later, x, made, parts, account, split, expresses, named,
    others, fun both => ?_⟩
  obtain ⟨target, last, last'⟩ := depends.shared both
  have apart := Run.last?_apart tallies_nonempty tallies_injective chain account.lowered target
  rw [split'] at apart
  simp only [List.append_assoc, List.pairwise_append, List.singleton_append] at apart
  exact (List.pairwise_cons.mp apart.2.1.1).1 t (List.mem_singleton_self t) ⟨last', last⟩

end PromptForm
