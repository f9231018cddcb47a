import PromptForm.Proofs.Outline.Shape

/-! # Steps of a builder

A builder opens sections and adds lines to the last one. A line adds nothing, a field, or a question
with the field that asks to specify its option `Other`; it leaves everything before alone. After any
steps the last choice is known, and the conditions of the fields are those that their places call for.
-/

namespace PromptForm.Outline

/-- What is done to a builder. -/
inductive Builder.Step where
  | opening (title : String)
  | line (cs : List Char)

namespace Builder

def step (b : Builder) : Step → Except Failure Builder
  | .opening title => .ok (b.openSection title)
  | .line cs => b.addLine cs

def run (b : Builder) : List Step → Except Failure Builder
  | [] => .ok b
  | s :: rest =>
    match b.step s with
    | .ok b' => b'.run rest
    | .error e => .error e

/-- What every step keeps, when it does not fail, is kept by a run. -/
theorem run_induction {P : Builder → Prop}
    (opening : ∀ (b : Builder) (title : String), P b → P (b.openSection title))
    (line : ∀ (b : Builder) (cs : List Char) (b' : Builder), b.addLine cs = .ok b' → P b → P b')
    {steps : List Step} {b b' : Builder} (h : b.run steps = .ok b') (start : P b) : P b' := by
  induction steps generalizing b with
  | nil =>
      cases h
      exact start
  | cons s rest ih =>
      rw [run] at h
      cases s with
      | opening title => exact ih h (opening b title start)
      | line cs =>
          simp only [step] at h
          split at h
          · rename_i added
            exact ih h (line b cs _ added start)
          · cases h

end Builder

/-! ## Questions with an option to specify -/

section Specified

variable {quoted : String → String} {f : Field} {other other' : String}

theorem FirstOther.unique (h : FirstOther quoted f other) (h' : FirstOther quoted f other') :
    other = other' := by
  obtain ⟨texts, options, found⟩ := h
  obtain ⟨texts', options', found'⟩ := h'
  have same : texts = texts' :=
    List.map_injective_iff.mpr (fun _ _ => Json.text.inj) (options.symm.trans options')
  rw [same, found'] at found
  exact (Option.some.inj found).symm

/-- The builder asks to specify the first option that begins with `Other`, without the white space at
its ends. -/
theorem otherOption?_eq_some_iff (listed : Listed f) :
    Builder.otherOption? f = some other ↔ FirstOther trimmed f other := by
  refine ⟨fun h => ?_, Builder.otherOption?_of_first⟩
  obtain ⟨texts, options⟩ := listed
  have read : Builder.optionText ∘ Json.text = trimmed := funext Builder.optionText_text
  rw [Builder.otherOption?, options, List.map_map, read] at h
  exact ⟨texts, options, h⟩

/-- A question lets several options be picked, one of which begins with `Other`. -/
def HasOther (quoted : String → String) (f : Field) : Prop :=
  f.kind? = some .checkboxes ∧ ∃ other, FirstOther quoted f other

/-- What a line adds to a section: nothing, a field, or a question with an option that begins with
`Other` and a text field behind it. -/
inductive Additions (quoted : String → String) : List Field → Prop
  | nothing : Additions quoted []
  | field {f : Field} : ¬ HasOther quoted f → Additions quoted [f]
  | specified {f ask : Field} :
      HasOther quoted f → ask.kind? = some .text → Additions quoted [f, ask]

theorem withFollowUp_cases (listed : Listed f) :
    (¬ HasOther trimmed f ∧ Builder.withFollowUp f = [f]) ∨
      ∃ other, f.kind? = some .checkboxes ∧ FirstOther trimmed f other ∧
        Builder.withFollowUp f = [f, Builder.specifyField f other] := by
  rw [Builder.withFollowUp]
  split
  · rename_i boxes
    cases found : Builder.otherOption? f with
    | none =>
        refine .inl ⟨?_, rfl⟩
        rintro ⟨_, other, first⟩
        rw [(otherOption?_eq_some_iff listed).mpr first] at found
        cases found
    | some other => exact .inr ⟨other, boxes, (otherOption?_eq_some_iff listed).mp found, rfl⟩
  · rename_i single
    exact .inl ⟨fun has => single has.1, rfl⟩

theorem additions_withFollowUp (listed : Listed f) :
    Additions trimmed (Builder.withFollowUp f) := by
  rcases withFollowUp_cases listed with ⟨plain, alone⟩ | ⟨other, boxes, first, both⟩
  · rw [alone]
    exact .field plain
  · rw [both]
    exact .specified ⟨boxes, other, first⟩ (Builder.kind?_specifyField f other)

end Specified

/-! ## Conditions -/

/-- The field behind some fields asks to specify an answer to the last one of them, and an expression
says that this is the answer. -/
def Specifies (quoted : String → String) (before : List Field) (expr : String) : Prop :=
  ∃ front source other, before = front ++ [source] ∧ source.kind? = some .checkboxes ∧
    FirstOther quoted source other ∧ expr = source.label ++ " = " ++ other

/-- A field that comes after others has a condition just if it asks to specify an answer to the field
right before it, or begins with `If yes` and comes after a choice. -/
def Conditioned (quoted : String → String) (before : List Field) (f : Field) : Prop :=
  ∀ expr, f.showIf = some expr ↔
    f.kind? = some .text ∧ Specifies quoted before expr ∨
    (¬ ∃ text, Specifies quoted before text) ∧ Builder.beginsWith "if yes" f.label = true ∧
      ∃ source, lastChoice? before = some source ∧ expr = source.label ++ " = Yes"

/-- The last field has no option that begins with `Other`. -/
def Settled (quoted : String → String) (fields : List Field) : Prop :=
  ∀ front last, fields = front ++ [last] → ¬ HasOther quoted last

theorem Settled.not_specifies {quoted : String → String} {fields : List Field}
    (h : Settled quoted fields) : ¬ ∃ expr, Specifies quoted fields expr := by
  rintro ⟨expr, front, source, other, split, boxes, first, _⟩
  exact h front source split ⟨boxes, other, first⟩

theorem Settled.concat {quoted : String → String} {f : Field} (plain : ¬ HasOther quoted f)
    (fields : List Field) : Settled quoted (fields ++ [f]) := by
  intro front last split
  obtain rfl := List.singleton_inj.mp (List.append_inj' split rfl).2
  exact plain

namespace Builder

variable {b b' : Builder} {f : Field} {cs : List Char}

theorem label_dependent (b : Builder) (f : Field) : (b.dependent f).label = f.label := by
  simp only [dependent]
  split
  · split <;> rfl
  · rfl

theorem conditioned_dependent {quoted : String → String} (settled : Settled quoted b.fields)
    (last : b.lastChoice = lastChoice? b.fields) (free : f.showIf = none) :
    Conditioned quoted b.fields (b.dependent f) := by
  intro expr
  have unasked := settled.not_specifies
  have none_specified : ¬ Specifies quoted b.fields expr := fun h => unasked ⟨expr, h⟩
  simp only [none_specified, and_false, false_or, unasked, not_false_eq_true, true_and,
    label_dependent, ← last]
  cases known : b.lastChoice with
  | none => simp [dependent, known, free]
  | some choice =>
      simp only [dependent, known, free, Option.all_none, Bool.and_true, Option.some.injEq,
        exists_eq_left']
      have text : answered choice.label "Yes" = choice.label ++ " = Yes" := by
        rw [answered, String.append_assoc]
        rfl
      split
      · rename_i begins
        simp [begins, text, eq_comm]
      · rename_i begins
        simp [begins, free]

theorem conditioned_withFollowUp {fields : List Field} (each : Each (Conditioned trimmed) fields)
    (own : Conditioned trimmed fields f) (listed : Listed f) :
    Each (Conditioned trimmed) (fields ++ withFollowUp f) ∧
      Settled trimmed (fields ++ withFollowUp f) := by
  rcases withFollowUp_cases listed with ⟨plain, alone⟩ | ⟨other, boxes, first, both⟩
  · rw [alone]
    exact ⟨each.concat own, Settled.concat plain fields⟩
  · have regroup : fields ++ [f, specifyField f other] =
        fields ++ [f] ++ [specifyField f other] := by simp
    have single : ¬ HasOther trimmed (specifyField f other) := by
      rintro ⟨kind, _⟩
      rw [kind?_specifyField] at kind
      cases kind
    have specifies : Specifies trimmed (fields ++ [f]) (answered f.label other) :=
      ⟨fields, f, other, rfl, boxes, first, rfl⟩
    rw [both, regroup]
    refine ⟨(each.concat own).concat fun expr => ⟨fun written => ?_, ?_⟩,
      Settled.concat single _⟩
    · cases written
      exact .inl ⟨kind?_specifyField f other, specifies⟩
    · rintro (⟨_, front, source, other', split, _, first', rfl⟩ | ⟨unasked, _⟩)
      · obtain rfl := List.singleton_inj.mp (List.append_inj' split rfl).2
        rw [first'.unique first]
        rfl
      · exact absurd ⟨_, specifies⟩ unasked

/-! ## Steps and runs -/

/-- What a line does to the section that it is added to. -/
structure Grows (quoted : String → String) (cs : List Char) (draft draft' : Draft) : Prop where
  title : draft'.title = draft.title
  fields : ∃ more, draft'.fields = draft.fields ++ more ∧ Additions quoted more ∧
    (more = [] ↔ fieldOfLine cs = .ok none)
  description : draft'.description = draft.description ∨ draft.fields = [] ∧ draft'.fields = [] ∧
    draft'.description = draft.description ++ [String.ofList (Text.trim cs)]

theorem listed_dependent (read : fieldOfLine cs = .ok (some f)) (b : Builder) :
    Listed (b.dependent f) := by
  rw [Listed, options_dependent]
  exact listed_of_line read

theorem grows_of_addLine (h : b.addLine cs = .ok b') : ∃ earlier draft draft',
    b.sections = earlier ++ [draft] ∧ b'.sections = earlier ++ [draft'] ∧
      Grows trimmed cs draft draft' := by
  obtain ⟨draft, current, field | ⟨read, line⟩⟩ := addLine_inversion h
  · obtain ⟨f, read, rfl⟩ := field
    refine ⟨b.earlier, draft, _, by rw [sections, current]; rfl, rfl, rfl, ?_, .inl rfl⟩
    refine ⟨_, rfl, additions_withFollowUp (listed_dependent read b), ?_⟩
    have some_field : withFollowUp (b.dependent f) ≠ [] := by
      rw [withFollowUp]
      split <;> exact List.cons_ne_nil _ _
    simp [some_field, read]
  · have unchanged : ∃ more, draft.fields = draft.fields ++ more ∧ Additions trimmed more ∧
        (more = [] ↔ fieldOfLine cs = .ok none) :=
      ⟨[], (List.append_nil _).symm, .nothing, by simp [read]⟩
    rcases line with ⟨bare, rfl⟩ | ⟨_, rfl⟩
    · exact ⟨b.earlier, draft, _, by rw [sections, current]; rfl, rfl, rfl, unchanged,
        .inr ⟨bare, bare, rfl⟩⟩
    · have same : b'.sections = b'.earlier ++ [draft] := by rw [sections, current]; rfl
      exact ⟨b'.earlier, draft, draft, same, same, rfl, unchanged, .inl rfl⟩

/-- What is true of a builder after any steps. -/
structure Invariants (quoted : String → String) (b : Builder) : Prop where
  lastChoice : b.lastChoice = lastChoice? b.fields
  conditions : Each (Conditioned quoted) b.fields
  line : ∀ cs b', b.addLine cs = .ok b' → ∃ earlier draft draft',
    b.sections = earlier ++ [draft] ∧ b'.sections = earlier ++ [draft'] ∧
      Grows quoted cs draft draft'

/-- The builder is sound, its fields have the conditions that their places call for, and no question
is waiting for the field that asks to specify its answer. -/
structure Conditional (b : Builder) : Prop where
  sound : b.Sound
  conditions : Each (Conditioned trimmed) b.fields
  settled : Settled trimmed b.fields

theorem conditional_empty : empty.Conditional where
  sound := sound_empty
  conditions := Each.nil
  settled front last split := by simp [fields, sections, empty] at split

theorem Conditional.openSection (h : b.Conditional) (title : String) :
    (b.openSection title).Conditional where
  sound := h.sound.openSection title
  conditions := (fields_openSection b title).symm ▸ h.conditions
  settled := (fields_openSection b title).symm ▸ h.settled

theorem Conditional.addLine (h : b.Conditional) (step : b.addLine cs = .ok b') :
    b'.Conditional := by
  obtain ⟨_, ⟨f, read, fields, _⟩ | ⟨fields, _⟩⟩ := addLine_cases step
  · have own := conditioned_dependent h.settled h.sound.last (asked_of_line read).free
    obtain ⟨conditions, settled⟩ :=
      conditioned_withFollowUp h.conditions own (listed_dependent read b)
    rw [← fields] at conditions settled
    exact ⟨h.sound.addLine step, conditions, settled⟩
  · exact ⟨h.sound.addLine step, fields ▸ h.conditions, fields ▸ h.settled⟩

/-- After any steps that do not fail, the last choice is the last field whose answer is picked from
options, and a field has a condition just if it asks to specify an answer to the question right
before it, or begins with `If yes` and comes after a choice. A further line leaves the other sections
and the fields before it alone; it adds nothing, a field, or a question with an option that begins
with `Other` and a text field, and it adds to the description only while there are no fields. Options
are read without the white space at their ends. -/
theorem invariants_run {steps : List Step} (h : empty.run steps = .ok b) :
    b.Invariants trimmed := by
  have conditional : b.Conditional :=
    run_induction (fun _ title holds => holds.openSection title)
      (fun _ _ _ added holds => holds.addLine added) h conditional_empty
  exact ⟨conditional.sound.last, conditional.conditions, fun _ _ => grows_of_addLine⟩

/-- The fields of a builder after some steps, as they are shown. -/
def shownAfter? (steps : List Step) : Option (List Shown) :=
  (empty.run steps).toOption.map fun b => b.fields.map Shown.ofField

theorem shownAfter?_eq_some {steps : List Step} {entries : List Shown}
    (h : shownAfter? steps = some entries) :
    ∃ b, empty.run steps = .ok b ∧ b.fields.map Shown.ofField = entries := by
  obtain ⟨b, made, shown⟩ := Option.map_eq_some_iff.mp h
  cases run : empty.run steps with
  | error e =>
      rw [run] at made
      cases made
  | ok found =>
      rw [run] at made
      cases made
      exact ⟨b, rfl, shown⟩

/-- Steps that add a question and what depends on it. -/
def petSteps : List Step := [.opening "A", .line "Pets and more".toList,
  .line "- Pets? (checkboxes: Cat, Other)".toList, .opening "B",
  .line "- If yes, since when (date)".toList]

theorem invariants_petSteps : ∃ b, empty.run petSteps = .ok b ∧
    b.fields.map Field.showIf = [none, some "Pets? = Other", some "Pets? = Yes"] ∧
    b.Invariants trimmed := by
  obtain ⟨b, run, shown⟩ := shownAfter?_eq_some
    (show shownAfter? petSteps = some [
      ⟨some .checkboxes, "Pets?", ["Cat", "Other"], none⟩,
      ⟨some .text, "Pets: please specify", [], some "Pets? = Other"⟩,
      ⟨some .date, "If yes, since when", [], some "Pets? = Yes"⟩] by decide +kernel)
  have conditions := congrArg (List.map Shown.condition) shown
  rw [List.map_map] at conditions
  exact ⟨b, run, conditions, invariants_run run⟩

/-- Steps that add a question with an option in quotes. -/
def daySteps : List Step :=
  [.opening "A", .line "- Days (checkboxes: Mon, \"\tOther\")".toList]

/-- A line adds a question and a field with a condition behind it although, if a tab that quotes keep
in front of an option counts, no option of the question begins with `Other`. -/
theorem unspecified_daySteps : ∃ b days ask, empty.run daySteps = .ok b ∧
    b.fields = [days, ask] ∧ ¬ HasOther id days ∧ ask.showIf = some "Days = Other" ∧
    beginsWith "if yes" ask.label = false ∧ ¬ b.Invariants id := by
  obtain ⟨b, run, shown⟩ := shownAfter?_eq_some
    (show shownAfter? daySteps = some [
      ⟨some .checkboxes, "Days", ["Mon", "\tOther"], none⟩,
      ⟨some .text, "Days: please specify", [], some "Days = Other"⟩] by decide +kernel)
  obtain ⟨days, rest, fields, at_days, others⟩ := List.map_eq_cons_iff.mp shown
  obtain ⟨ask, rfl, at_ask⟩ := List.map_eq_singleton_iff.mp others
  have written : ask.showIf = some "Days = Other" := congrArg Shown.condition at_ask
  have plain : ¬ HasOther id days := by
    rintro ⟨_, other, texts, options, found⟩
    have read : Json.display ∘ Json.text = id := rfl
    have displayed : days.options.map Json.display = ["Mon", "\tOther"] :=
      congrArg Shown.options at_days
    rw [options, List.map_map, read] at displayed
    have nothing : ["Mon", "\tOther"].find? (beginsWith "other") = none := by decide
    rw [displayed, nothing] at found
    cases found
  have free : beginsWith "if yes" ask.label = false := by
    have label : ask.label = "Days: please specify" := congrArg Shown.label at_ask
    rw [label]
    decide
  refine ⟨b, days, ask, run, fields, plain, written, free, fun invariants => ?_⟩
  have condition := (invariants.conditions [days] ask [] fields "Days = Other").mp written
  rcases condition with ⟨_, front, source, other, split, boxes, first, _⟩ | ⟨_, begins, _⟩
  · have at_end : [] ++ [days] = front ++ [source] := split
    obtain rfl := List.singleton_inj.mp (List.append_inj' at_end rfl).2
    exact plain ⟨boxes, other, first⟩
  · rw [free] at begins
    cases begins

end Builder

end PromptForm.Outline
