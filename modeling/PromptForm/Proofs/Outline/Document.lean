import PromptForm.Outline.Document
import PromptForm.Proofs.Enrichment
import PromptForm.Proofs.Outline.Builder

/-! # Outlines and their forms

Reading an outline keeps its builder sound. It fails at the first line of a section that cannot be
read, and only there. The form of an outline has the fields of the outline, with the questions that
enrich it woven in.
-/

namespace PromptForm.Outline

def Opens (line : List Char) : Prop := (sectionLine? line).isSome = true

def Closes (line : List Char) : Prop :=
  sectionLine? line = none ∧ (trailerLine? line).isSome = true

/-- Is a section open after some lines? -/
def SectionOpen (lines : List (List Char)) : Prop :=
  ∃ before line after, lines = before ++ line :: after ∧ Opens line ∧ ∀ l ∈ after, ¬ Closes l

theorem not_sectionOpen_nil : ¬ SectionOpen [] := by
  rintro ⟨before, line, after, split, _⟩
  simp at split

theorem sectionOpen_cons {line : List Char} {lines : List (List Char)} :
    SectionOpen (line :: lines) ↔
      SectionOpen lines ∨ Opens line ∧ ∀ l ∈ lines, ¬ Closes l := by
  constructor
  · rintro ⟨before, opening, after, split, opens, kept⟩
    rcases List.cons_eq_append_iff.mp split with ⟨rfl, same⟩ | ⟨before, rfl, rest⟩
    · cases same
      exact .inr ⟨opens, kept⟩
    · exact .inl ⟨before, opening, after, rest, opens, kept⟩
  · rintro (⟨before, opening, after, rfl, opens, kept⟩ | ⟨opens, kept⟩)
    · exact ⟨line :: before, opening, after, rfl, opens, kept⟩
    · exact ⟨[], line, lines, rfl, opens, kept⟩

/-- A line that would be a field of a section but cannot be read. -/
def Breaking (line : List Char) : Prop := ¬ Opens line ∧ ¬ Closes line ∧ Endless line

namespace Document

/-- The builder is sound, and a section is under way while lines belong to one. -/
structure Sound (d : Document) : Prop where
  builder : d.builder.Sound
  placed : d.place = .inSection → d.builder.current.isSome = true

variable {d d' : Document} {line : List Char}

theorem addPreamble_builder (d : Document) (line : List Char) :
    (d.addPreamble line).builder = d.builder := by
  simp only [addPreamble]
  split
  · rfl
  · split
    · rfl
    · split <;> rfl

theorem addPreamble_place (outside : d.place ≠ .inSection) (line : List Char) :
    (d.addPreamble line).place ≠ .inSection := by
  simp only [addPreamble]
  split
  · exact outside
  · split
    · exact nofun
    · split <;> exact outside

/-- What adding a line can do, when it does not fail. -/
inductive Step (d : Document) (line : List Char) : Document → Prop
  | opens (title : String) : Opens line →
      Step d line { d with builder := d.builder.openSection title, place := .inSection }
  | closes (trailer : List (List Char)) : Closes line →
      Step d line { d with place := .trailer, trailer := trailer }
  | trailer : ¬ Opens line → ¬ Closes line → d.place = .trailer →
      Step d line { d with trailer := d.trailer ++ [line] }
  | preamble : ¬ Opens line → ¬ Closes line → d.place ≠ .inSection →
      Step d line (d.addPreamble line)
  | inSection {builder : Builder} : ¬ Opens line → ¬ Closes line → d.place = .inSection →
      d.builder.addLine line = .ok builder → Step d line { d with builder := builder }

theorem step_of_addLine (h : d.addLine line = .ok d') : Step d line d' := by
  simp only [addLine] at h
  split at h
  · rename_i title opened
    cases h
    exact .opens _ (by rw [Opens, opened]; rfl)
  · rename_i unopened
    have opens : ¬ Opens line := by simp [Opens, unopened]
    split at h
    · rename_i text closed
      cases h
      exact .closes _ ⟨unopened, by rw [closed]; rfl⟩
    · rename_i unclosed
      have closes : ¬ Closes line := by simp [Closes, unclosed]
      split at h
      · rename_i place
        cases h
        exact .trailer opens closes place
      · rename_i place
        cases h
        exact .preamble opens closes (by rw [place]; exact nofun)
      · rename_i place
        cases h
        exact .preamble opens closes (by rw [place]; exact nofun)
      · rename_i place
        cases step : d.builder.addLine line with
        | error e => simp [step, Except.map] at h
        | ok builder =>
            rw [step] at h
            cases h
            exact .inSection opens closes place step

theorem Sound.addLine (h : d.Sound) (step : d.addLine line = .ok d') : d'.Sound := by
  cases step_of_addLine step with
  | opens title => exact ⟨h.builder.openSection title, fun _ => rfl⟩
  | closes => exact ⟨h.builder, nofun⟩
  | trailer _ _ place => exact ⟨h.builder, fun here => h.placed here⟩
  | preamble _ _ place =>
      refine ⟨by rw [addPreamble_builder]; exact h.builder, fun here => ?_⟩
      exact absurd here (addPreamble_place place line)
  | inSection _ _ _ added =>
      exact ⟨h.builder.addLine added, fun _ => (Builder.addLine_cases added).1⟩

theorem Sound.addLines (h : d.Sound) {lines : List (List Char)}
    (steps : d.addLines lines = .ok d') : d'.Sound := by
  induction lines generalizing d with
  | nil =>
      cases steps
      exact h
  | cons line lines ih =>
      rw [Document.addLines] at steps
      cases step : d.addLine line with
      | error e => simp [step, bind, Except.bind] at steps
      | ok next =>
          rw [step] at steps
          exact ih (h.addLine step) steps

theorem sound_empty : empty.Sound := ⟨Builder.sound_empty, nofun⟩

theorem sound_parse {prompt : String} (h : parse prompt = .ok d) : d.Sound :=
  sound_empty.addLines h

/-- What holds of the empty builder and is kept when a section is opened or a line is added holds of
the builder of an outline. -/
theorem builder_induction {P : Builder → Prop} (empty : P Builder.empty)
    (opens : ∀ (b : Builder) (title : String), P b → P (b.openSection title))
    (adds : ∀ (b b' : Builder) (cs : List Char), b.Sound → b.addLine cs = .ok b' → P b → P b')
    {prompt : String} (h : parse prompt = .ok d) : P d.builder := by
  have once {d d' : Document} {line : List Char} (sound : d.Sound) (holds : P d.builder)
      (added : d.addLine line = .ok d') : P d'.builder := by
    cases step_of_addLine added with
    | opens title => exact opens d.builder _ holds
    | closes => exact holds
    | trailer => exact holds
    | preamble => exact (addPreamble_builder d line).symm ▸ holds
    | inSection _ _ _ built => exact adds d.builder _ line sound.builder built holds
  have run {lines : List (List Char)} {d d' : Document} (sound : d.Sound) (holds : P d.builder)
      (added : d.addLines lines = .ok d') : P d'.builder := by
    induction lines generalizing d with
    | nil =>
        cases added
        exact holds
    | cons line lines ih =>
        rw [Document.addLines] at added
        cases here : d.addLine line with
        | error e => simp [here, bind, Except.bind] at added
        | ok next =>
            rw [here] at added
            exact ih (sound.addLine here) (once sound holds here) added
  exact run sound_empty empty h

/-- What holds of no fields and is kept by every line that adds some holds of the fields of an
outline. -/
theorem fields_induction {P : List Field → Prop} (nil : P [])
    (step : ∀ (b : Builder) (cs : List Char) (f : Field), b.Sound →
      fieldOfLine cs = .ok (some f) → P b.fields →
        P (b.fields ++ Builder.withFollowUp (b.dependent f)))
    {prompt : String} (h : parse prompt = .ok d) : P d.builder.fields := by
  refine builder_induction (P := fun b => P b.fields) nil (fun b title holds => ?_)
    (fun b b' cs sound added holds => ?_) h
  · exact (Builder.fields_openSection b title).symm ▸ holds
  · obtain ⟨_, ⟨f, read, fields, _⟩ | ⟨fields, _⟩⟩ := Builder.addLine_cases added
    · exact fields ▸ step b cs f sound read holds
    · exact fields ▸ holds

/-- What holds of no fields and is kept by every line that adds some to a section holds of the
fields of each section of an outline. -/
theorem sections_induction {P : List Field → Prop} (nil : P [])
    (step : ∀ (b : Builder) (cs : List Char) (f : Field) (fields : List Field),
      fieldOfLine cs = .ok (some f) → P fields →
        P (fields ++ Builder.withFollowUp (b.dependent f)))
    {prompt : String} (h : parse prompt = .ok d) : ∀ s ∈ d.sections, P s.fields := by
  have drafts : ∀ draft ∈ d.builder.sections, P draft.fields := by
    refine builder_induction (P := fun b => ∀ draft ∈ b.sections, P draft.fields)
      (List.forall_mem_nil _) (fun b title holds => ?_) (fun b b' cs _ added holds => ?_) h
    · intro draft hd
      rcases List.mem_append.mp hd with earlier | new
      · exact holds draft earlier
      · exact List.mem_singleton.mp new ▸ nil
    · intro draft hd
      obtain ⟨old, among, same | ⟨f, read, same⟩⟩ := Builder.sections_addLine added hd
      · exact same ▸ holds old among
      · exact same ▸ step b cs f old.fields read (holds old among)
  intro s hs
  obtain ⟨draft, hd, rfl⟩ := List.mem_map.mp hs
  exact drafts draft (List.mem_of_mem_filter hd)

/-! ## Lines that cannot be read -/

theorem place_addLine (h : d.addLine line = .ok d') :
    d'.place = .inSection ↔ Opens line ∨ d.place = .inSection ∧ ¬ Closes line := by
  cases step_of_addLine h with
  | opens title opened => simp [opened]
  | closes _ closed =>
      have opens : ¬ Opens line := by simp [Opens, closed.1]
      simp [opens, closed]
  | trailer opens closes place => simp [opens, place]
  | preamble opens closes place => simp [opens, place, addPreamble_place place]
  | inSection opens closes place => simp [closes, place]

theorem addLine_error_iff (h : d.Sound) :
    (∃ e, d.addLine line = .error e) ↔ d.place = .inSection ∧ Breaking line := by
  have built {draft : Draft} (current : d.builder.current = some draft) :
      (∃ e, d.builder.addLine line = .error e) ↔ Endless line := by
    rw [← fieldOfLine_error_iff]
    simp only [Builder.addLine, current]
    cases fieldOfLine line with
    | error e => simp [bind, Except.bind]
    | ok found =>
        cases found with
        | some f => simp [bind, Except.bind, pure, Except.pure]
        | none => cases draft.fields.isEmpty <;> simp [bind, Except.bind, pure, Except.pure]
  simp only [addLine, Breaking, Opens, Closes]
  cases sectionLine? line with
  | some title => simp
  | none =>
      cases trailerLine? line with
      | some text => simp
      | none =>
          cases place : d.place with
          | inSection =>
              obtain ⟨draft, current⟩ := Option.isSome_iff_exists.mp (h.placed place)
              rw [← built current]
              cases d.builder.addLine line <;> simp [Except.map]
          | preamble | intro | trailer => simp

/-- Lines fail to be added when a breaking one among them comes while a section is open. -/
theorem addLines_error_iff (h : d.Sound) {lines : List (List Char)} :
    (∃ e, d.addLines lines = .error e) ↔ ∃ before line after, lines = before ++ line :: after ∧
      (SectionOpen before ∨ d.place = .inSection ∧ ∀ l ∈ before, ¬ Closes l) ∧ Breaking line := by
  induction lines generalizing d with
  | nil => simp [addLines]
  | cons first rest ih =>
      rw [addLines]
      cases step : d.addLine first with
      | error e =>
          obtain ⟨place, breaking⟩ := (addLine_error_iff h).mp ⟨e, step⟩
          simp only [bind, Except.bind, Except.error.injEq, exists_eq', true_iff]
          exact ⟨[], first, rest, rfl, .inr ⟨place, nofun⟩, breaking⟩
      | ok next =>
          have place := place_addLine step
          have open_cons (before : List (List Char)) :
              (SectionOpen (first :: before) ∨
                d.place = .inSection ∧ ∀ l ∈ first :: before, ¬ Closes l) ↔
              (SectionOpen before ∨ next.place = .inSection ∧ ∀ l ∈ before, ¬ Closes l) := by
            rw [sectionOpen_cons, place, List.forall_mem_cons]
            tauto
          simp only [bind, Except.bind, ih (h.addLine step)]
          constructor
          · rintro ⟨before, line, after, rfl, opened, breaking⟩
            exact ⟨first :: before, line, after, rfl, (open_cons before).mpr opened, breaking⟩
          · rintro ⟨before, line, after, split, opened, breaking⟩
            rcases List.cons_eq_append_iff.mp split with ⟨rfl, same⟩ | ⟨before, rfl, rest⟩
            · cases same
              have here := opened.resolve_left not_sectionOpen_nil
              obtain ⟨e, failed⟩ := (addLine_error_iff h).mpr ⟨here.1, breaking⟩
              rw [step] at failed
              cases failed
            · exact ⟨before, line, after, rest, (open_cons before).mp opened, breaking⟩

/-- A prompt is no outline when a line in one of its sections cannot be read. -/
theorem parse_error_iff {prompt : String} :
    (∃ e, parse prompt = .error e) ↔ ∃ before line after,
      ((Text.splitLines prompt.toList).map Text.trim).filter (!·.isEmpty) =
        before ++ line :: after ∧ SectionOpen before ∧ Breaking line := by
  rw [parse, addLines_error_iff sound_empty]
  simp [empty]

/-! ## Fields of forms -/

def fields (d : Document) : List Field := d.builder.fields

theorem fields_sections (d : Document) : d.sections.flatMap Section.fields = d.fields := by
  simp only [sections, fields, Builder.fields]
  induction d.builder.sections with
  | nil => rfl
  | cons draft rest ih =>
      cases empty : draft.fields.isEmpty with
      | true =>
          have none_left : draft.fields = [] := List.isEmpty_iff.mp empty
          rw [List.filter_cons_of_neg (by simp [empty]), ih, List.flatMap_cons, none_left,
            List.nil_append]
      | false =>
          rw [List.filter_cons_of_pos (by simp [empty]), List.map_cons, List.flatMap_cons, ih,
            List.flatMap_cons]

/-- The form of a document is an enriched one: that of its sections, or, if there are none, a stock
form. -/
theorem form?_eq_some {prompt : String} {form : Form} (h : d.form? prompt = some form) :
    ∃ bare : Form, form = bare.enrich prompt ∧ (bare.sections = d.sections ∧ d.sections ≠ [] ∨
      d.sections = [] ∧ Template.match? prompt = some bare) := by
  simp only [form?] at h
  split at h
  · rename_i none_left
    obtain ⟨bare, found, rfl⟩ := Option.map_eq_some_iff.mp h
    exact ⟨bare, rfl, .inr ⟨none_left, found⟩⟩
  · rename_i some_left
    cases h
    exact ⟨_, rfl, .inl ⟨rfl, some_left⟩⟩

theorem form?_cases {prompt : String} {form : Form} (h : d.form? prompt = some form) :
    ∃ bare : Form, form = bare.enrich prompt ∧ (bare.fields = d.fields ∨
      d.fields = [] ∧ Template.match? prompt = some bare) := by
  obtain ⟨bare, same, ⟨own, _⟩ | ⟨none_left, stock⟩⟩ := form?_eq_some h
  · exact ⟨bare, same, .inl (by rw [Form.fields, own, fields_sections])⟩
  · exact ⟨bare, same, .inr ⟨by rw [← fields_sections, none_left]; rfl, stock⟩⟩

theorem usual_form? (sound : d.Sound) {prompt : String} {form : Form}
    (h : d.form? prompt = some form) : ∀ f ∈ form.fields, f.Usual := by
  obtain ⟨bare, rfl, own | ⟨_, stock⟩⟩ := form?_cases h
  · exact Form.usual_enrich (own ▸ sound.builder.usual) prompt
  · exact Form.usual_enrich (Template.usual_match? stock) prompt

end Document

end PromptForm.Outline
