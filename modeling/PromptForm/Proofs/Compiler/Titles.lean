import PromptForm.Proofs.Compiler.Stages
import PromptForm.Proofs.Outline.Title

/-! # Titles of compiled forms

A compiled form begins with a block that shows its title. Every stage sees to it that the title is
not blank, but for the outline, which takes over white space that stands between quote marks.
-/

namespace PromptForm

/-- The first of some blocks shows a title. -/
def Headed (title : String) (blocks : List Block) : Prop :=
  ∃ first rest, blocks = first :: rest ∧ first.kind = .formTitle ∧
    first.payload.body = .formTitle title (.plain title)

theorem Headed.of_sketch (title uuid groupUuid : String) (rest : List Block) :
    Headed title ((Sketch.formTitle title).block uuid groupUuid :: rest) :=
  ⟨_, rest, rfl, rfl, rfl⟩

namespace Lowered

variable {s s' : Lowered} {ids : IdSource} {n m : Nat}

/-- Lowering a part only adds blocks. -/
theorem blocks_part {p : Part} (h : s.part p ids n = (.ok s', m)) : s.blocks <+: s'.blocks := by
  cases p with
  | filler sketch =>
      obtain ⟨block, k, _, rest⟩ := Draw.of_bind_ok h
      cases rest
      exact List.prefix_append _ _
  | field f =>
      obtain ⟨bare, k, _, rest⟩ := Draw.of_bind_ok h
      cases bare with
      | nil =>
          cases rest
          exact List.prefix_rfl
      | cons first others =>
          cases condition : f.showIf.bind nonEmpty? with
          | none =>
              simp only [condition] at rest
              cases rest
              exact List.prefix_append _ _
          | some expr =>
              simp only [condition] at rest
              obtain ⟨outcome, k', _, rest⟩ := Draw.of_bind_ok rest
              cases outcome <;>
              · cases rest
                exact List.prefix_append _ _

theorem blocks_parts {ps : List Part} (h : s.parts ps ids n = (.ok s', m)) :
    s.blocks <+: s'.blocks := by
  induction ps generalizing s n with
  | nil =>
      cases h
      exact List.prefix_rfl
  | cons p ps ih =>
      obtain ⟨next, k, step, rest⟩ := Draw.of_bind_ok h
      exact (blocks_part step).trans (ih rest)

end Lowered

theorem Form.headed_of_lower {form : Form} {attribution : Option String} {ids : IdSource}
    {n m : Nat} {lowered : Lowered} (h : form.lower attribution ids n = (.ok lowered, m)) :
    Headed form.title lowered.blocks := by
  rw [Form.lower_eq, Part.ofForm, List.cons_append, List.cons_append] at h
  obtain ⟨s, k, step, rest⟩ := Draw.of_bind_ok h
  rw [Lowered.part, Draw.bind_ok (Sketch.draw_none _ n)] at step
  cases step
  obtain ⟨more, blocks⟩ := Lowered.blocks_parts rest
  rw [← blocks]
  exact .of_sketch form.title _ _ more

theorem Keyword.headed_of_blocks {prompt title : String} (filled : title.isEmpty = false)
    {attribution : Option String} {ids : IdSource} {n m : Nat} {shown : List Block}
    (h : blocks prompt title attribution ids n = (.ok shown, m)) : Headed title shown := by
  rw [blocks, filled, if_neg Bool.false_ne_true, Build.formTitle_eq] at h
  rw [Draw.bind_ok (Sketch.draw_none _ n)] at h
  obtain ⟨groups, k, _, closed⟩ := Draw.of_bind_ok h
  obtain ⟨closing, k', _, finished⟩ := Draw.of_bind_ok closed
  cases finished
  exact .of_sketch title _ _ _

namespace Compiler

variable {config : Config} {oracle? : Option Oracle} {ids : IdSource} {drawn : Nat}
  {requestId prompt : String} {c : CompiledForm}

theorem headed_ofForm {source : Source} {form : Form}
    (h : (ofForm config requestId source form ids drawn).1 = .ok c) :
    c.title = form.title ∧ Headed c.title c.blocks := by
  cases made : form.lower config.attribution ids drawn with
  | mk result m =>
      cases result with
      | error e =>
          rw [ofForm, Draw.bind_error made] at h
          cases h
      | ok lowered =>
          rw [ofForm, Draw.bind_ok made] at h
          cases h
          exact ⟨rfl, Form.headed_of_lower made⟩

theorem headed_ofKeywords (h : (ofKeywords config requestId prompt ids drawn).1 = .ok c) :
    c.title = Title.ofPrompt prompt ∧ Headed c.title c.blocks := by
  have filled : (Title.ofPrompt prompt).isEmpty = false := by
    refine Bool.eq_false_iff.mpr fun empty => ?_
    have shown := Title.ofPrompt_shown prompt
    rw [String.isEmpty_iff.mp empty] at shown
    cases shown
  cases made : Keyword.blocks prompt (Title.ofPrompt prompt) config.attribution ids drawn with
  | mk result m =>
      cases result with
      | error e =>
          rw [ofKeywords, Draw.bind_error made] at h
          cases h
      | ok blocks =>
          rw [ofKeywords, Draw.bind_ok made] at h
          cases h
          exact ⟨rfl, Keyword.headed_of_blocks filled made⟩

/-- The title of a form that a stage gave is blank only for an outline with a hollow title. -/
theorem Way.isBlankText_title_iff {source : Source} {form : Form}
    (way : Way config oracle? prompt source (some form)) :
    isBlankText form.title = true ↔ source = .heuristic ∧ Outline.HasHollowTitle prompt := by
  cases way with
  | structured defined =>
      exact iff_of_false (ne_true_of_eq_false (Definition.title_shown defined)) nofun
  | oracle _ accepts =>
      exact iff_of_false (ne_true_of_eq_false (Oracle.title_shown accepts.given)) nofun
  | heuristic _ _ outlined =>
      rw [Outline.formOfPrompt?] at outlined
      cases parsed : Outline.Document.parse prompt with
      | error e => simp [parsed, Except.map] at outlined
      | ok d =>
          rw [parsed] at outlined
          rw [Outline.isBlankText_title_iff parsed (Except.ok.inj outlined)]
          exact (and_iff_right rfl).symm

/-- A compiled form begins with its title. The title is not blank, unless the form comes from an
outline whose title line has only white space between quote marks. -/
theorem compile_titled
    (h : (compile config oracle? ids drawn requestId prompt).outcome.1 = .ok c) :
    Headed c.title c.blocks ∧
      (isBlankText c.title = true ↔
        c.source = .heuristic ∧ Outline.HasHollowTitle prompt) := by
  rcases made_of_compile h with ⟨source, form, way, made⟩ | ⟨_, made⟩
  · obtain ⟨title, headed⟩ := headed_ofForm made
    refine ⟨headed, ?_⟩
    rw [title, (source_ofForm made).1]
    exact way.isBlankText_title_iff
  · obtain ⟨title, headed⟩ := headed_ofKeywords made
    refine ⟨headed, iff_of_false ?_ ?_⟩
    · rw [title]
      exact ne_true_of_eq_false (Title.ofPrompt_shown prompt)
    · rw [(source_ofKeywords made).1]
      exact nofun

/-- An outline with a field and a title in quote marks. -/
def quotedOutline (title : String) : String :=
  "Title: \"" ++ title ++ "\"\nSection: A\n- Name (text)"

theorem titled_quotedOutline : ∃ c,
    (compile Config.default none tallies 0 "" (quotedOutline "Pets")).outcome.1 = .ok c ∧
      Headed "Pets" c.blocks ∧ ¬ Outline.HasHollowTitle (quotedOutline "Pets") := by
  have entries : (compile Config.default none tallies 0 ""
      (quotedOutline "Pets")).outcome.1.toOption.map (fun c => (c.title, c.source)) =
        some ("Pets", .heuristic) := by
    decide +kernel
  obtain ⟨c, m, made, same⟩ := Draw.exists_of_toOption entries
  obtain ⟨title, source⟩ := Prod.mk.inj same
  have compiled : (compile Config.default none tallies 0 ""
      (quotedOutline "Pets")).outcome.1 = .ok c := congrArg Prod.fst made
  obtain ⟨headed, blank⟩ := compile_titled compiled
  rw [title] at headed blank
  exact ⟨c, compiled, headed, fun hollow => absurd (blank.mpr ⟨source, hollow⟩) (by decide)⟩

/-- White space between quote marks is taken for the title. -/
theorem hollow_quotedOutline : ∃ c,
    (compile Config.default none tallies 0 "" (quotedOutline " ")).outcome.1 = .ok c ∧
      isBlankText c.title = true := by
  have entry : (compile Config.default none tallies 0 ""
      (quotedOutline " ")).outcome.1.toOption.map (fun c => isBlankText c.title) =
        some true := by
    decide +kernel
  obtain ⟨c, m, made, blank⟩ := Draw.exists_of_toOption entry
  exact ⟨c, congrArg Prod.fst made, blank⟩

end Compiler

end PromptForm
