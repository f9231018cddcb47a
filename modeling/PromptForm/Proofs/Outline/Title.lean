import PromptForm.Proofs.Outline.Document
import PromptForm.Proofs.Title

/-! # Titles of outlines

The title of an outline is that of the last title line before its first section or its end, without
the quote marks around it. Nothing that comes later gives it another one.
-/

namespace PromptForm.Outline

/-- The lines of a prompt that are read: trimmed, and not empty. -/
def promptLines (prompt : String) : List (List Char) :=
  ((Text.splitLines prompt.toList).map Text.trim).filter (!·.isEmpty)

/-- Does a line neither open a section nor begin the end? -/
def isLeading (line : List Char) : Bool :=
  (sectionLine? line).isNone && (trailerLine? line).isNone

/-- A title without the quote marks around it. -/
def unquoted (title : List Char) : String := String.ofList (Text.stripWhere isQuoteMark title)

/-- The title that lines give an outline. -/
def titleOf? (lines : List (List Char)) : Option String :=
  ((lines.takeWhile isLeading).filterMap titleLine?).getLast?.map unquoted

theorem titleOf?_cons {line : List Char} (leading : isLeading line = true)
    (lines : List (List Char)) : titleOf? (line :: lines) =
      (titleOf? lines).or ((titleLine? line).map unquoted) := by
  rw [titleOf?, List.takeWhile_cons_of_pos leading, List.filterMap_cons, titleOf?]
  cases titleLine? line with
  | none => simp
  | some title =>
      rw [List.getLast?_cons]
      cases ((lines.takeWhile isLeading).filterMap titleLine?).getLast? <;> rfl

theorem titleOf?_of_not_leading {line : List Char} (h : isLeading line = false)
    (lines : List (List Char)) : titleOf? (line :: lines) = none := by
  rw [titleOf?, List.takeWhile_cons_of_neg (ne_true_of_eq_false h)]
  rfl

namespace Document

/-- No section and no end has begun. -/
def Leading (d : Document) : Prop := d.place = .preamble ∨ d.place = .intro

variable {d d' : Document} {line : List Char}

theorem addPreamble_leading (h : d.Leading) (line : List Char) :
    (d.addPreamble line).Leading ∧
      (d.addPreamble line).title = ((titleLine? line).map unquoted).or d.title := by
  simp only [addPreamble]
  cases titleLine? line with
  | some title => exact ⟨h, rfl⟩
  | none =>
      cases introLine? line with
      | some text => exact ⟨.inr rfl, rfl⟩
      | none =>
          dsimp only
          split <;> exact ⟨h, rfl⟩

/-- A line gives a title only while none but such lines have been added. -/
theorem title_addLine (h : d.addLine line = .ok d') :
    (d.Leading ∧ isLeading line = true → d'.Leading ∧
      d'.title = ((titleLine? line).map unquoted).or d.title) ∧
    (¬ (d.Leading ∧ isLeading line = true) → ¬ d'.Leading ∧ d'.title = d.title) := by
  simp only [addLine, isLeading] at h ⊢
  cases opened : sectionLine? line with
  | some title =>
      simp only [opened] at h
      cases h
      simp [Leading]
  | none =>
      cases closed : trailerLine? line with
      | some text =>
          simp only [opened, closed] at h
          cases h
          simp [Leading]
      | none =>
          simp only [opened, closed] at h
          cases place : d.place with
          | preamble | intro =>
              have leading : d.Leading := by simp [Leading, place]
              simp only [place] at h
              cases h
              have kept := addPreamble_leading leading line
              exact ⟨fun _ => kept, fun other => absurd ⟨leading, rfl⟩ other⟩
          | trailer =>
              simp only [place] at h
              cases h
              simp [Leading, place]
          | inSection =>
              simp only [place] at h
              cases built : d.builder.addLine line with
              | error e => simp [built, Except.map] at h
              | ok builder =>
                  rw [built] at h
                  cases h
                  simp [Leading, place]

theorem title_addLines {lines : List (List Char)} (h : d.addLines lines = .ok d') :
    (d.Leading → d'.title = (titleOf? lines).or d.title) ∧
    (¬ d.Leading → d'.title = d.title) := by
  induction lines generalizing d with
  | nil =>
      cases h
      exact ⟨fun _ => rfl, fun _ => rfl⟩
  | cons line lines ih =>
      rw [addLines] at h
      cases step : d.addLine line with
      | error e => simp [step, bind, Except.bind] at h
      | ok next =>
          rw [step] at h
          obtain ⟨before, after⟩ := title_addLine step
          obtain ⟨leading, past⟩ := ih h
          constructor
          · intro here
            cases leads : isLeading line with
            | true =>
                obtain ⟨there, title⟩ := before ⟨here, leads⟩
                rw [leading there, title, titleOf?_cons leads, Option.or_assoc]
            | false =>
                obtain ⟨there, title⟩ := after fun both => by
                  rw [leads] at both
                  exact Bool.false_ne_true both.2
                rw [past there, title, titleOf?_of_not_leading leads, Option.none_or]
          · intro here
            obtain ⟨there, title⟩ := after fun both => here both.1
            rw [past there, title]

/-- The title of an outline is that of the last title line before its first section. -/
theorem title_parse {prompt : String} (h : parse prompt = .ok d) :
    d.title = titleOf? (promptLines prompt) := by
  rw [(title_addLines h).1 (.inl rfl), empty, Option.or_none]
  rfl

end Document

/-- The outline has a section with a field, and its title line has nothing but white space between
quote marks. -/
def HasHollowTitle (prompt : String) : Prop :=
  (∃ d, Document.parse prompt = .ok d ∧ d.sections ≠ []) ∧
    ∃ title, titleOf? (promptLines prompt) = some title ∧ title.isEmpty = false ∧
      isBlankText title = true

theorem title_form? {d : Document} {prompt : String} {form : Form}
    (h : d.form? prompt = some form) :
    d.sections = [] ∧ isBlankText form.title = false ∨
      d.sections ≠ [] ∧ form.title = (d.title.bind nonEmpty?).getD (Title.ofPrompt prompt) := by
  simp only [Document.form?] at h
  split at h
  · rename_i none_left
    obtain ⟨stock, found, rfl⟩ := Option.map_eq_some_iff.mp h
    rw [Form.title_enrich]
    exact .inl ⟨none_left, Template.title_shown found⟩
  · rename_i some_left
    obtain rfl := Option.some.inj h
    rw [Form.title_enrich]
    exact .inr ⟨some_left, rfl⟩

/-- The title of the form of an outline is blank only if its title line is hollow. -/
theorem isBlankText_title_iff {d : Document} {prompt : String} {form : Form}
    (parsed : Document.parse prompt = .ok d) (h : d.form? prompt = some form) :
    isBlankText form.title = true ↔ HasHollowTitle prompt := by
  have sections : (∃ d', Document.parse prompt = .ok d' ∧ d'.sections ≠ []) ↔
      d.sections ≠ [] := by
    rw [parsed]
    exact ⟨fun ⟨_, same, some_left⟩ => Except.ok.inj same ▸ some_left, fun h => ⟨d, rfl, h⟩⟩
  rw [HasHollowTitle, sections, ← Document.title_parse parsed]
  rcases title_form? h with ⟨none_left, shown⟩ | ⟨some_left, title⟩
  · exact iff_of_false (ne_true_of_eq_false shown) fun hollow => hollow.1 none_left
  · have otherwise := Title.ofPrompt_shown prompt
    cases given : d.title with
    | none => simp [title, given, otherwise]
    | some own =>
        rw [title, given, Option.bind_some, nonEmpty?]
        cases empty : own.isEmpty with
        | true =>
            refine iff_of_false (ne_true_of_eq_false otherwise) ?_
            rintro ⟨_, title, same, filled, _⟩
            cases same
            rw [empty] at filled
            cases filled
        | false =>
            constructor
            · exact fun blank => ⟨some_left, own, rfl, empty, blank⟩
            · rintro ⟨_, title, same, _, blank⟩
              cases same
              exact blank

end PromptForm.Outline
