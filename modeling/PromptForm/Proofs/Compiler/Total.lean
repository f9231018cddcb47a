import PromptForm.Proofs.Compiler.Groups
import PromptForm.Proofs.Outline.Condition

/-! # When compiling gives a form

Without an oracle, compiling gives a form for every prompt but those that break it. A prompt breaks
it when it is a definition that cannot be read, when a field of its definition cannot be lowered, or
when a line of its outline cannot be read. Keywords and outlines that have been read never fail.
-/

namespace PromptForm

namespace Compiler

/-- A prompt that no form is compiled for. -/
inductive Breaks (prompt : String) : Prop
  /-- The prompt is a definition that cannot be read. -/
  | unreadable : Definition.Unreadable prompt → Breaks prompt
  /-- The prompt defines a form with a field that cannot be lowered. -/
  | field {form : Form} {f : Field} : Definition.formOfPrompt? prompt = .ok (some form) →
      f ∈ form.fields → f.Breaks → Breaks prompt
  /-- The prompt is no definition, and a line in one of its sections cannot be read. -/
  | line {before after : List (List Char)} {line : List Char} :
      Definition.formOfPrompt? prompt = .ok none →
      ((Text.splitLines prompt.toList).map Text.trim).filter (!·.isEmpty) =
        before ++ line :: after →
      Outline.SectionOpen before → Outline.Breaking line → Breaks prompt

theorem ofForm_ok_iff (config : Config) (requestId : String) (source : Source) (form : Form)
    (ids : IdSource) (n : Nat) :
    (∃ c, (ofForm config requestId source form ids n).1 = .ok c) ↔
      ∀ f ∈ form.fields, ¬ f.Breaks := by
  rw [← Form.lower_ok_iff form config.attribution ids n]
  cases made : form.lower config.attribution ids n with
  | mk result m =>
      cases result with
      | error e => simp [ofForm, Draw.bind_error made]
      | ok lowered =>
          rw [ofForm, Draw.bind_ok made]
          exact iff_of_true ⟨_, rfl⟩ ⟨lowered, m, rfl⟩

theorem ofKeywords_total (config : Config) (requestId prompt : String) :
    (ofKeywords config requestId prompt).Total := by
  refine Draw.Total.bind ?_ fun blocks => Draw.Total.pure _
  rw [Keyword.blocks_eq, Cluster.drawList]
  exact (Draw.Total.each Cluster.draw_total _).bind fun _ => Draw.Total.pure _

variable {config : Config} {oracle? : Option Oracle}

theorem attempt_form (unasked : oracle? = none ∨ config.usesOracle = false) (prompt : String) :
    (attempt config oracle? prompt).form = .ok none := by
  rcases unasked with rfl | off
  · simp only [attempt]
    split <;> rfl
  · simp only [attempt, off, Bool.false_eq_true, if_false]

theorem withOracle_outcome (unasked : oracle? = none ∨ config.usesOracle = false) (ids : IdSource)
    (drawn : Nat) (requestId prompt : String) :
    (withOracle config oracle? ids drawn requestId prompt).outcome =
      (withoutOracle config ids drawn requestId prompt).outcome := by
  simp only [withOracle, attempt_form unasked]

theorem withoutOracle_ok_iff (config : Config) (ids : IdSource) (drawn : Nat)
    (requestId prompt : String) :
    (∃ c, (withoutOracle config ids drawn requestId prompt).outcome.1 = .ok c) ↔
      ¬ ∃ e, Outline.Document.parse prompt = .error e := by
  simp only [withoutOracle, Outline.formOfPrompt?]
  cases parsed : Outline.Document.parse prompt with
  | error e => simp [Except.map]
  | ok d =>
      simp only [Except.map, reduceCtorEq, exists_false, not_false_eq_true, iff_true]
      cases found : d.form? prompt with
      | some form =>
          refine (ofForm_ok_iff config requestId .heuristic form ids drawn).mpr ?_
          exact Outline.Document.not_breaks_form? (Outline.Document.sound_parse parsed) found
      | none =>
          obtain ⟨c, m, made⟩ := ofKeywords_total config requestId prompt ids drawn
          exact ⟨c, congrArg Prod.fst made⟩

/-- Without an oracle, a form is compiled for every prompt but those that break compiling. -/
theorem compile_ok_iff (unasked : oracle? = none ∨ config.usesOracle = false) (ids : IdSource)
    (drawn : Nat) (requestId prompt : String) :
    (∃ c, (compile config oracle? ids drawn requestId prompt).outcome.1 = .ok c) ↔
      ¬ Breaks prompt := by
  simp only [compile]
  cases read : Definition.formOfPrompt? prompt with
  | error e =>
      have unreadable := (Definition.formOfPrompt?_error_iff prompt).mp ⟨e, read⟩
      exact iff_of_false (by simp) (not_not_intro (.unreadable unreadable))
  | ok found =>
      have readable : ¬ Definition.Unreadable prompt := by
        intro unreadable
        obtain ⟨e, failed⟩ := (Definition.formOfPrompt?_error_iff prompt).mpr unreadable
        rw [read] at failed
        cases failed
      cases found with
      | some form =>
          rw [ofForm_ok_iff]
          constructor
          · rintro sane (unreadable | ⟨defined, hf, breaks⟩ | ⟨undefined, _, _, _⟩)
            · exact readable unreadable
            · rw [read] at defined
              cases defined
              exact sane _ hf breaks
            · rw [read] at undefined
              cases undefined
          · exact fun whole f hf breaks => whole (.field read hf breaks)
      | none =>
          simp only [withOracle_outcome unasked, withoutOracle_ok_iff,
            Outline.Document.parse_error_iff]
          constructor
          · rintro lines (unreadable | ⟨defined, hf, breaks⟩ | ⟨_, split, opened, breaking⟩)
            · exact readable unreadable
            · rw [read] at defined
              cases defined
            · exact lines ⟨_, _, _, split, opened, breaking⟩
          · rintro whole ⟨before, line, after, split, opened, breaking⟩
            exact whole (.line read split opened breaking)

theorem not_breaks_petDefinition : ¬ Breaks petDefinition := by
  have compiled : (compile Config.default none tallies 0 "" petDefinition).outcome.1.isOk := by
    decide +kernel
  rw [← compile_ok_iff (.inl rfl) tallies 0 "" petDefinition]
  cases outcome : (compile Config.default none tallies 0 "" petDefinition).outcome.1 with
  | ok c => exact ⟨c, rfl⟩
  | error e =>
      rw [outcome] at compiled
      cases compiled

/-- A definition of a rating out of infinitely many stars. -/
def endlessRating : String :=
  "\x7b\"fields\": [\x7b\"type\": \"rating\", \"label\": \"Stars\", \"max\": 1e999\x7d]\x7d"

/-- Compiling breaks off at a rating out of infinitely many stars. -/
theorem compile_endlessRating :
    (compile Config.default none tallies 0 "" endlessRating).outcome.1 =
      .error (.notFinite .infinity) := by
  have failure : (match (compile Config.default none tallies 0 "" endlessRating).outcome.1 with
      | .error e => some e
      | .ok _ => none) = some (.notFinite .infinity) := by
    decide +kernel
  cases outcome : (compile Config.default none tallies 0 "" endlessRating).outcome.1 with
  | ok c =>
      rw [outcome] at failure
      cases failure
  | error e =>
      rw [outcome] at failure
      cases failure
      rfl

end Compiler

end PromptForm
