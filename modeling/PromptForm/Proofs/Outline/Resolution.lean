import PromptForm.Proofs.Condition.Plain
import PromptForm.Proofs.Lowering.Resolution
import PromptForm.Proofs.Outline.Condition

/-! # What conditions of outlines refer to

The builder of an outline writes the label of the last choice into a condition. Lowering reads the
label back and looks it up among all labels before. The condition refers to the choice exactly when
the labels of the form let it through: they do if the label looks like no expression and is the only
one of its kind.
-/

namespace PromptForm

theorem Woven.split_own {α : Type} {extra : α → Prop} {own all : List α} (h : Woven extra own all)
    {before after : List α} {a : α} (at_a : own = before ++ a :: after) :
    ∃ before' after', all = before' ++ a :: after' ∧ Woven extra before before' ∧
      Woven extra after after' := by
  induction h generalizing before with
  | nil => simp at at_a
  | @keep b own all h ih =>
      rcases List.cons_eq_append_iff.mp at_a with ⟨rfl, same⟩ | ⟨before, rfl, rest⟩
      · cases same
        exact ⟨[], all, rfl, .nil, h⟩
      · obtain ⟨before', after', rfl, front, back⟩ := ih rest
        exact ⟨b :: before', after', rfl, front.keep, back⟩
  | @weave b own all new h ih =>
      obtain ⟨before', after', rfl, front, back⟩ := ih at_a
      exact ⟨b :: before', after', rfl, .weave new front, back⟩

namespace Outline

/-- A field among those of a form for which the builder wrote a condition, and the choice whose
label it wrote: the last one before among the fields of the outline. -/
structure Link (d : Document) (fields : List Field) where
  before : List Field
  source : Field
  middle : List Field
  dependent : Field
  after : List Field
  answer : String
  split : fields = (before ++ source :: middle) ++ dependent :: after
  own_source : source ∈ d.fields
  choice : source.isChoice = true
  last : ∀ f ∈ middle, f ∈ d.fields → f.isChoice = false
  own : dependent ∈ d.fields
  awaited : Awaited answer
  written : dependent.showIf = some (Builder.answered source.label answer)

namespace Link

variable {d : Document} {fields : List Field}

def condition (l : Link d fields) : String := Builder.answered l.source.label l.answer

/-- The condition refers to the choice by the labels of the form. -/
def Reaches (l : Link d fields) : Prop :=
  PromptForm.Reaches l.before l.source l.middle l.condition

/-- Among the runs of a form, the field depends on the answer in the last block of the choice. -/
def Kept (l : Link d fields) (runs : List Run) : Prop :=
  ∃ earlier s between r later, runs = (earlier ++ s :: between) ++ r :: later ∧
    Run.fields earlier = l.before ∧ s.part = .field l.source ∧ Run.fields between = l.middle ∧
    r.part = .field l.dependent ∧ Run.fields later = l.after ∧ r.DependsOn s

theorem nonEmpty?_condition (l : Link d fields) :
    l.dependent.showIf.bind nonEmpty? = some l.condition := by
  have filled : l.condition.isEmpty = false := by
    rw [← Bool.not_eq_true, String.isEmpty_iff, ← String.toList_inj]
    simp [condition, Builder.answered]
  rw [l.written, Option.bind_some, nonEmpty?]
  exact if_neg (ne_true_of_eq_false filled)

theorem kept_iff {ids : IdSource} {runs : List Run} {lowered : Lowered} (filled : ids.Nonempty)
    (account : Account ids runs lowered) (bare : ∀ r ∈ runs, r.bare ≠ [])
    (apart : ∀ target, runs.Pairwise fun r s => ¬ (r.last? = some target ∧ s.last? = some target))
    (listed : Run.fields runs = fields) (l : Link d fields) : l.Kept runs ↔ l.Reaches := by
  constructor
  · rintro ⟨earlier, s, between, r, later, split, before, at_s, middle, at_r, _, depends⟩
    have reaches := (account.dependsOn_iff filled bare apart split at_s at_r
      l.nonEmpty?_condition).mp depends
    rwa [before, middle] at reaches
  · intro reaches
    obtain ⟨front, r, later, split, fields_front, at_r, fields_later⟩ :=
      Run.split_fields (listed.trans l.split)
    obtain ⟨earlier, s, between, rfl, fields_earlier, at_s, fields_between⟩ :=
      Run.split_fields fields_front
    refine ⟨earlier, s, between, r, later, split, fields_earlier, at_s, fields_between, at_r,
      fields_later, ?_⟩
    rw [account.dependsOn_iff filled bare apart split at_s at_r l.nonEmpty?_condition,
      fields_earlier, fields_between]
    exact reaches

/-- A condition reaches its choice if the label of the choice has no sign of an operator, the word
for equality is nowhere in the condition, and no label in between has the first key of the label. -/
theorem reaches_of_plain (l : Link d fields)
    (plain : ∀ c ∈ l.source.label.toList, Expression.isSign c = false)
    (wordless : ¬ Expression.equalsWord <:+: Text.lower (Text.trim l.condition.toList))
    {key : String} {back : List String} (keys : referenceKeys l.source.label = key :: back)
    (apart : ∀ f ∈ l.middle, key ∉ referenceKeys f.label) : l.Reaches := by
  obtain ⟨value, x, rest, solid, _, text⟩ := answered_solid l.awaited l.source.label
  have shown : Text.trim l.source.label.toList ≠ [] := by
    intro blank
    rw [@referenceKeys_congr l.source.label "" blank] at keys
    cases keys
  rw [condition, text] at wordless
  obtain ⟨e, read, same⟩ := Expression.parse?_plain solid plain shown wordless
  rw [← text] at read
  exact ⟨e, [], key, back, read, (referenceKeys_congr same).trans keys,
    List.forall_mem_nil _, by simp [keys], apart⟩

end Link

namespace Document

variable {d : Document} {prompt : String} {form : Form}

/-- Where a field of the outline stands in the form, the last choice of the outline before it comes
before it, and no other choice of the outline comes in between. -/
theorem exists_front (h : d.form? prompt = some form) {before after : List Field} {f : Field}
    (split : form.fields = before ++ f :: after) (own : f ∈ d.fields) :
    ∃ front back, d.fields = front ++ f :: back ∧ ∀ source, lastChoice? front = some source →
      ∃ first middle, before = first ++ source :: middle ∧ source ∈ d.fields ∧
        source.isChoice = true ∧ ∀ g ∈ middle, g ∈ d.fields → g.isChoice = false := by
  obtain ⟨bare, rfl, fields | ⟨none_left, _⟩⟩ := form?_cases h
  · have woven := bare.enrich_woven prompt
    rw [fields] at woven
    rcases woven.split split with new | ⟨front, back, same, woven_front, _⟩
    · exact absurd rfl (new.2 f own)
    · refine ⟨front, back, same, fun source last => ?_⟩
      obtain ⟨start, rest, rfl, choice, plain⟩ := lastChoice?_eq_some last
      obtain ⟨first, middle, rfl, _, woven_middle⟩ := woven_front.split_own rfl
      refine ⟨first, middle, rfl, ?_, choice, fun g hg own_g => ?_⟩
      · rw [same]
        simp
      · rcases woven_middle.own_or_extra hg with hg | new
        · exact plain g hg
        · exact absurd rfl (new.2 g own_g)
  · rw [none_left] at own
    cases own

/-- Every condition of a field of the outline is one that the builder wrote. -/
theorem exists_link (sound : d.Sound) (h : d.form? prompt = some form) {before after : List Field}
    {f : Field} (split : form.fields = before ++ f :: after) (own : f ∈ d.fields)
    (conditional : f.showIf.isSome = true) : ∃ l : Link d form.fields,
      l.before ++ l.source :: l.middle = before ∧ l.dependent = f ∧ l.after = after := by
  obtain ⟨expr, written⟩ := Option.isSome_iff_exists.mp conditional
  obtain ⟨front, back, same, found⟩ := exists_front h split own
  obtain ⟨source, answer, last, awaited, rfl⟩ := sound.builder.orderly front f back same expr
    written
  obtain ⟨first, middle, rfl, own_source, choice, plain⟩ := found source last
  exact ⟨⟨first, source, middle, f, after, answer, split, own_source, choice, plain, own, awaited,
    written⟩, rfl, rfl, rfl⟩

/-- Every condition of the form of an outline refers to a field before if those that the builder
wrote reach theirs. -/
theorem isKnown_of_reaches (sound : d.Sound) (h : d.form? prompt = some form)
    (reaches : ∀ l : Link d form.fields, l.Reaches) {before after : List Field} {f : Field}
    (split : form.fields = before ++ f :: after) {expr : String} (written : f.showIf = some expr) :
    isKnown (before.map Field.label) expr = true := by
  by_cases own : f ∈ d.fields
  · obtain ⟨l, rfl, rfl, rfl⟩ := exists_link sound h split own (by rw [written]; rfl)
    have same : l.condition = expr := Option.some.inj (l.written.symm.trans written)
    exact same ▸ (reaches l).isKnown
  · obtain ⟨bare, rfl, fields⟩ := form?_cases h
    rcases (bare.enrich_woven prompt).split split with new | ⟨front, back, same, woven, _⟩
    · rw [new.1.free] at written
      cases written
    · rcases fields with fields | ⟨_, stock⟩
      · refine absurd ?_ own
        rw [← fields, same]
        simp
      · have known := Field.isKnown_of_areKnown (Template.areKnown_match? stock) same written
        refine isKnown_mono (fun label hl => ?_) known
        obtain ⟨g, hg, rfl⟩ := List.mem_map.mp hl
        exact List.mem_map_of_mem (woven.mem_of_own hg)

/-- No condition of the form of an outline is left over, and every field for which the builder wrote
one depends on the choice whose label it wrote, exactly when each condition reaches its choice. -/
theorem resolved_iff (parsed : parse prompt = .ok d) (h : d.form? prompt = some form)
    {attribution : Option String} {ids : IdSource} (filled : ids.Nonempty)
    (injective : Function.Injective ids) {n m : Nat} {lowered : Lowered}
    (made : form.lower attribution ids n = (.ok lowered, m)) :
    (∀ before f after, form.fields = before ++ f :: after → f ∈ d.fields →
      f.showIf.isSome = true → ∃ l : Link d form.fields,
        l.before ++ l.source :: l.middle = before ∧ l.dependent = f ∧ l.after = after) ∧
    ∃ runs : List Run, runs.map Run.part = Part.ofForm form attribution ∧
      Account ids runs lowered ∧
      ((lowered.unresolved = [] ∧ ∀ l : Link d form.fields, l.Kept runs) ↔
        ∀ l : Link d form.fields, l.Reaches) := by
  have sound := sound_parse parsed
  obtain ⟨runs, parts, chain, account⟩ := Form.lower_account filled made
  have listed : Run.fields runs = form.fields := by
    rw [← Part.fields_ofForm form attribution, ← parts, List.filterMap_map]
    rfl
  have bare := account.bare_ne_nil filled (listed ▸ usual_form? sound h)
  have apart := Run.last?_apart filled injective chain account.lowered
  refine ⟨fun before f after => exists_link sound h, runs, parts, account, ?_⟩
  constructor
  · exact fun kept l => (l.kept_iff filled account bare apart listed).mp (kept.2 l)
  · intro reaches
    refine ⟨account.unresolved_eq_nil bare fun before f after split expr condition => ?_,
      fun l => (l.kept_iff filled account bare apart listed).mpr (reaches l)⟩
    obtain ⟨text, written, kept⟩ := Option.bind_eq_some_iff.mp condition
    simp only [nonEmpty?, Option.ite_none_left_eq_some, Option.some.injEq] at kept
    rw [← kept.2]
    exact isKnown_of_reaches sound h reaches (listed ▸ split) written

/-- A field of the form is one of the outline if it is labelled like one. -/
theorem mem_fields_of_label (h : d.form? prompt = some form) {f : Field} (hf : f ∈ form.fields)
    (labelled : f.label ∈ d.fields.map Field.label) : f ∈ d.fields := by
  obtain ⟨g, hg, same⟩ := List.mem_map.mp labelled
  obtain ⟨bare, rfl, fields | ⟨none_left, _⟩⟩ := form?_cases h
  · have woven := bare.enrich_woven prompt
    rw [fields] at woven
    exact (woven.own_or_extra hf).resolve_right fun new => new.2 g hg same
  · rw [none_left] at hg
    cases hg

/-- The labels of an outline, the labels and the conditions of its form, and the conditions that are
left over when the form is lowered. -/
def summary? (prompt : String) :
    Option (List String × List (String × Option String) × List String) := do
  let d ← (parse prompt).toOption
  let form ← d.form? prompt
  let lowered ← (form.lower none tallies 0).1.toOption
  return (d.fields.map Field.label, form.fields.map fun f => (f.label, f.showIf),
    lowered.unresolved)

theorem summary?_eq_some {labels : List String} {entries : List (String × Option String)}
    {left : List String} (h : summary? prompt = some (labels, entries, left)) :
    ∃ d form lowered m, parse prompt = .ok d ∧ d.form? prompt = some form ∧
      form.lower none tallies 0 = (.ok lowered, m) ∧ d.fields.map Field.label = labels ∧
      (form.fields.map fun f => (f.label, f.showIf)) = entries ∧ lowered.unresolved = left := by
  simp only [summary?] at h
  cases parsed : parse prompt with
  | error e => simp [parsed, Except.toOption] at h
  | ok d =>
      cases made : d.form? prompt with
      | none => simp [parsed, made, Except.toOption] at h
      | some form =>
          cases lowers : form.lower none tallies 0 with
          | mk result m =>
              cases result with
              | error e => simp [parsed, made, lowers, Except.toOption] at h
              | ok lowered =>
                  simp only [parsed, made, lowers, Except.toOption, Option.bind_eq_bind,
                    Option.bind_some, Option.pure_def, Option.some.injEq, Prod.mk.injEq] at h
                  exact ⟨d, form, lowered, m, rfl, made, lowers, h⟩

/-- An outline of checkboxes with an option to specify. -/
def petsOutline : String := "Section: A\n- Pets (checkboxes: Cat, Other)"

theorem resolved_petsOutline : ∃ d form lowered m runs, parse petsOutline = .ok d ∧
    d.form? petsOutline = some form ∧ form.lower none tallies 0 = (.ok lowered, m) ∧
    Account tallies runs lowered ∧ lowered.unresolved = [] ∧
    ∃ l : Link d form.fields, l.condition = "Pets = Other" ∧ l.Kept runs := by
  have outcome : summary? petsOutline = some (["Pets", "Pets: please specify"],
      [("Pets", none), ("Pets: please specify", some "Pets = Other")], []) := by
    decide +kernel
  obtain ⟨d, form, lowered, m, parsed, made, lowers, labels, entries, left⟩ :=
    summary?_eq_some outcome
  obtain ⟨linked, runs, _, account, kept⟩ :=
    resolved_iff parsed made tallies_nonempty tallies_injective lowers
  obtain ⟨pets, rest, fields, first, others⟩ := List.map_eq_cons_iff.mp entries
  obtain ⟨specify, none_left, rfl, second, last⟩ := List.map_eq_cons_iff.mp others
  rw [List.map_eq_nil_iff] at last
  subst last
  have own : specify ∈ d.fields := by
    refine mem_fields_of_label made (by simp [fields]) ?_
    rw [labels, (Prod.mk.inj second).1]
    simp
  have condition (l : Link d form.fields) : l.condition = "Pets = Other" ∧ l.middle = [] ∧
      l.source.label = "Pets" := by
    have split := fields.symm.trans l.split
    have sizes := congrArg List.length split
    simp only [List.length_append, List.length_cons, List.length_nil] at sizes
    have none_before : l.before = [] := List.length_eq_zero_iff.mp (by omega)
    have none_middle : l.middle = [] := List.length_eq_zero_iff.mp (by omega)
    rw [none_before, none_middle, List.nil_append, List.singleton_append, List.cons.injEq,
      List.cons.injEq] at split
    have written := l.written
    rw [← split.2.1, (Prod.mk.inj second).2] at written
    exact ⟨(Option.some.inj written).symm, none_middle, split.1 ▸ (Prod.mk.inj first).1⟩
  have reaches (l : Link d form.fields) : l.Reaches := by
    obtain ⟨text, none_middle, label⟩ := condition l
    have keys : referenceKeys l.source.label = ["pets"] := by
      rw [label]
      decide +kernel
    have unsigned : "Pets".toList.any Expression.isSign = false := by decide
    refine l.reaches_of_plain (fun c hc => ?_) ?_ keys
      (by rw [none_middle]; exact List.forall_mem_nil _)
    · rw [label] at hc
      exact eq_false_of_ne_true (List.any_eq_false.mp unsigned c hc)
    · rw [text]
      decide +kernel
  obtain ⟨l, _⟩ := linked [pets] specify [] fields own (by rw [(Prod.mk.inj second).2]; rfl)
  exact ⟨d, form, lowered, m, runs, parsed, made, lowers, account, left, l, (condition l).1,
    (kept.mpr reaches).2 l⟩

/-- An outline of a question with the sign of an operator, and another question that depends on
it. -/
def ageOutline : String :=
  "Section: A\n- Age > 18? (radio: Yes, No)\n- If yes, since when? (date)"

/-- The sign in the label is taken for the operator, so the condition is left over. -/
theorem unresolved_ageOutline : ∃ d form lowered m, parse ageOutline = .ok d ∧
    d.form? ageOutline = some form ∧ form.lower none tallies 0 = (.ok lowered, m) ∧
    lowered.unresolved = ["Age > 18? = Yes"] := by
  have outcome : summary? ageOutline = some (["Age > 18?", "If yes, since when?"],
      [("Age > 18?", none), ("If yes, since when?", some "Age > 18? = Yes")],
      ["Age > 18? = Yes"]) := by
    decide +kernel
  obtain ⟨d, form, lowered, m, parsed, made, lowers, _, _, left⟩ := summary?_eq_some outcome
  exact ⟨d, form, lowered, m, parsed, made, lowers, left⟩

end Document

end Outline

end PromptForm
