import PromptForm.Proofs.Compiler.Total

/-! # The stages of compiling

A prompt that is no definition goes to the oracle, and on to the outline and the keywords unless a
form of the oracle is accepted. Main statement: a compiled form tells by its source which stage gave
it, the oracle was called once or not at all, and an oracle that is rejected leaves no trace in the
outcome.
-/

namespace PromptForm.Compiler

/-- The oracle is asked for a prompt and gives a form with enough fields. -/
structure Accepts (config : Config) (oracle? : Option Oracle) (prompt : String) (form : Form) :
    Prop where
  asked : config.usesOracle = true
  given : Oracle.formOfPrompt oracle? prompt = .ok form
  enough : form.hasFields config.oracleMinFields = true

/-- The oracle is not asked, or its call ends in a fault or in a form with too few fields. -/
inductive Rejects (config : Config) (oracle? : Option Oracle) (prompt : String) : Prop
  | unasked : config.usesOracle = false → Rejects config oracle? prompt
  | fault {f : Oracle.Fault} : Oracle.formOfPrompt oracle? prompt = .error (.fault f) →
      Rejects config oracle? prompt
  | few {form : Form} : Oracle.formOfPrompt oracle? prompt = .ok form →
      form.hasFields config.oracleMinFields = false → Rejects config oracle? prompt

variable {config : Config} {oracle? : Option Oracle} {prompt : String}

/-- An oracle gives a form that is accepted, or it is rejected, or it breaks off the compiling. -/
theorem attempt_cases (config : Config) (oracle? : Option Oracle) (prompt : String) :
    (∃ form, Accepts config oracle? prompt form ∧
      (attempt config oracle? prompt).form = .ok (some form)) ∨
    (Rejects config oracle? prompt ∧ (attempt config oracle? prompt).form = .ok none) ∨
    (config.usesOracle = true ∧
      ∃ e, Oracle.formOfPrompt oracle? prompt = .error (.failure e) ∧
        (attempt config oracle? prompt).form = .error e) := by
  cases asked : config.usesOracle with
  | false => exact .inr (.inl ⟨.unasked asked, attempt_form (.inr asked) prompt⟩)
  | true =>
      simp only [attempt, asked, if_true]
      cases given : Oracle.formOfPrompt oracle? prompt with
      | ok form =>
          cases enough : form.hasFields config.oracleMinFields with
          | true => exact .inl ⟨form, ⟨asked, given, enough⟩, by simp [enough]⟩
          | false => exact .inr (.inl ⟨.few given enough, by simp [enough]⟩)
      | error breakdown =>
          cases breakdown with
          | fault f => exact .inr (.inl ⟨.fault given, by cases f <;> rfl⟩)
          | failure e => exact .inr (.inr ⟨trivial, e, rfl, rfl⟩)

/-- A form of the oracle that is accepted is the one that is compiled. -/
theorem Accepts.outcome {form : Form} (accepts : Accepts config oracle? prompt form)
    (undefined : Definition.formOfPrompt? prompt = .ok none) (ids : IdSource) (drawn : Nat)
    (requestId : String) :
    (compile config oracle? ids drawn requestId prompt).outcome =
      ofForm config requestId .oracle form ids drawn := by
  obtain ⟨asked, given, enough⟩ := accepts
  simp only [compile, undefined, withOracle, attempt, asked, given, enough, if_true]

/-- The way in which a prompt is understood: by the first stage that gives a form, or else by its
keywords. -/
inductive Way (config : Config) (oracle? : Option Oracle) (prompt : String) :
    Source → Option Form → Prop
  | structured {form : Form} : Definition.formOfPrompt? prompt = .ok (some form) →
      Way config oracle? prompt .structured (some form)
  | oracle {form : Form} : Definition.formOfPrompt? prompt = .ok none →
      Accepts config oracle? prompt form → Way config oracle? prompt .oracle (some form)
  | heuristic {form : Form} : Definition.formOfPrompt? prompt = .ok none →
      Rejects config oracle? prompt → Outline.formOfPrompt? prompt = .ok (some form) →
      Way config oracle? prompt .heuristic (some form)
  | keyword : Definition.formOfPrompt? prompt = .ok none → Rejects config oracle? prompt →
      Outline.formOfPrompt? prompt = .ok none → Way config oracle? prompt .keyword none

namespace Way

variable {source : Source} {parsed : Option Form}

theorem undefined (way : Way config oracle? prompt source parsed)
    (none_defined : ¬ ∃ form, Definition.formOfPrompt? prompt = .ok (some form)) :
    Definition.formOfPrompt? prompt = .ok none ∧ source ≠ .structured := by
  cases way with
  | structured defined => exact absurd ⟨_, defined⟩ none_defined
  | oracle undefined | heuristic undefined | keyword undefined => exact ⟨undefined, nofun⟩

end Way

variable {ids : IdSource} {drawn : Nat} {requestId : String} {c : CompiledForm}

theorem source_ofForm {source : Source} {form : Form}
    (h : (ofForm config requestId source form ids drawn).1 = .ok c) :
    c.source = source ∧ c.parsed = some form := by
  cases made : form.lower config.attribution ids drawn with
  | mk result m =>
      cases result with
      | error e =>
          rw [ofForm, Draw.bind_error made] at h
          cases h
      | ok lowered =>
          rw [ofForm, Draw.bind_ok made] at h
          cases h
          exact ⟨rfl, rfl⟩

theorem source_ofKeywords (h : (ofKeywords config requestId prompt ids drawn).1 = .ok c) :
    c.source = .keyword ∧ c.parsed = none := by
  cases made : Keyword.blocks prompt (Title.ofPrompt prompt) config.attribution ids drawn with
  | mk result m =>
      cases result with
      | error e =>
          rw [ofKeywords, Draw.bind_error made] at h
          cases h
      | ok blocks =>
          rw [ofKeywords, Draw.bind_ok made] at h
          cases h
          exact ⟨rfl, rfl⟩

/-- A compiled form is made of the form that a stage gave, or else of keywords. -/
theorem made_of_compile
    (h : (compile config oracle? ids drawn requestId prompt).outcome.1 = .ok c) :
    (∃ source form, Way config oracle? prompt source (some form) ∧
      (ofForm config requestId source form ids drawn).1 = .ok c) ∨
    Way config oracle? prompt .keyword none ∧
      (ofKeywords config requestId prompt ids drawn).1 = .ok c := by
  simp only [compile] at h
  cases defined : Definition.formOfPrompt? prompt with
  | error e => simp [defined] at h
  | ok found =>
      cases found with
      | some form =>
          simp only [defined] at h
          exact .inl ⟨_, form, .structured defined, h⟩
      | none =>
          simp only [defined, withOracle] at h
          rcases attempt_cases config oracle? prompt with
            ⟨form, accepts, given⟩ | ⟨rejects, given⟩ | ⟨_, e, _, given⟩
          · simp only [given] at h
            exact .inl ⟨_, form, .oracle defined accepts, h⟩
          · simp only [given, withoutOracle] at h
            cases outlined : Outline.formOfPrompt? prompt with
            | error e => simp [outlined] at h
            | ok found =>
                cases found with
                | some form =>
                    simp only [outlined] at h
                    exact .inl ⟨_, form, .heuristic defined rejects outlined, h⟩
                | none =>
                    simp only [outlined] at h
                    exact .inr ⟨.keyword defined rejects outlined, h⟩
          · simp [given] at h

end PromptForm.Compiler
