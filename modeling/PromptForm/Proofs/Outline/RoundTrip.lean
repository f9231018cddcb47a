import PromptForm.Proofs.Outline.Document
import PromptForm.Proofs.Outline.Question
import PromptForm.Proofs.Outline.Writing

/-! # Outlines of plans

The outline of a plan gives the form that was planned exactly when the plan is clear. Every question
gives at least one field. So the fields are as many as the questions only if every question stands
for one field and no question is added to the form.
-/

namespace PromptForm.Outline

open Text

namespace Question

/-! ## Questions after fields -/

/-- A question whose line, after some fields, stands for the field that asks it. -/
structure Fits (before : List Field) (q : Question) : Prop where
  clear : q.Clear
  alone : q.Alone
  independent : Builder.beginsWith "if yes" q.label.text = true → lastChoice? before = none

theorem kind?_field (q : Question) : q.field.kind? = some q.word.kind :=
  Kind.ofName?_name q.word.kind

theorem isChoice_field (q : Question) : q.field.isChoice = q.word.offers := by
  rw [Field.isChoice, kind?_field]
  cases q.word <;> rfl

theorem kind_eq_checkboxes {word : KindWord} : word.kind = .checkboxes ↔ word = .checkboxes := by
  cases word <;> decide

theorem usableText_phrase (o : Phrase) : (Json.text o.text).usableText = o.text := by
  have given : o.text.isEmpty = false := by simpa [Phrase.text] using o.filled
  have trimmed : PromptForm.trimmed o.text = o.text := by
    rw [PromptForm.trimmed, onText, Phrase.text, String.toList_ofList, o.trimmed]
  simp only [Json.usableText, Json.truthy, Json.display, given, trimmed]
  rfl

theorem otherOption?_field (q : Question) :
    Builder.otherOption? q.field = none ↔
      ∀ o ∈ q.options, Builder.beginsWith "other" o.text = false := by
  have texts : q.field.options.map Builder.optionText = q.options.map Phrase.text := by
    rw [field, List.map_map]
    exact List.map_congr_left fun o _ => usableText_phrase o
  rw [Builder.otherOption?, texts, List.find?_eq_none, List.forall_mem_map]
  simp

theorem withFollowUp_field (q : Question) :
    Builder.withFollowUp q.field = [q.field] ↔ q.Alone := by
  rw [Alone, ← otherOption?_field]
  by_cases boxes : q.word = .checkboxes
  · have kind : q.field.kind? = some .checkboxes := by
      rw [kind?_field, kind_eq_checkboxes.mpr boxes]
    rw [Builder.withFollowUp, if_pos kind]
    simp [boxes]
  · have kind : q.field.kind? ≠ some .checkboxes := by
      rw [kind?_field, ne_eq, Option.some.injEq, kind_eq_checkboxes]
      exact boxes
    rw [Builder.withFollowUp, if_neg kind]
    exact iff_of_true rfl fun here => absurd here boxes

theorem head?_withFollowUp (f : Field) : (Builder.withFollowUp f).head? = some f := by
  rw [Builder.withFollowUp]
  split <;> rfl

theorem dependent_eq_field_iff {b : Builder} (sound : b.Sound) {f : Field} (free : f.showIf = none)
    (q : Question) : b.dependent f = q.field ↔ f = q.field ∧
      (Builder.beginsWith "if yes" q.label.text = true → lastChoice? b.fields = none) := by
  rw [← sound.last]
  cases last : b.lastChoice with
  | none => simp [Builder.dependent, last]
  | some choice =>
      cases yes : Builder.beginsWith "if yes" f.label with
      | true =>
          refine iff_of_false (fun same => ?_) ?_
          · have condition := congrArg Field.showIf same
            simp only [Builder.dependent, last, yes, free, Option.all_none, Bool.and_self, if_true]
              at condition
            cases condition
          · rintro ⟨rfl, independent⟩
            cases independent yes
      | false =>
          simp only [Builder.dependent, last, yes, Bool.false_and, Bool.false_eq_true, if_false]
          refine ⟨fun same => ⟨same, fun begins => ?_⟩, And.left⟩
          rw [same] at yes
          exact absurd begins (ne_true_of_eq_false yes)

/-- What the line of a question adds is the field that asks it exactly when the field of the line
is, and the question stands alone and depends on no other. -/
theorem withFollowUp_dependent {b : Builder} (sound : b.Sound) {f : Field} (free : f.showIf = none)
    (q : Question) : Builder.withFollowUp (b.dependent f) = [q.field] ↔
      f = q.field ∧ q.Alone ∧
        (Builder.beginsWith "if yes" q.label.text = true → lastChoice? b.fields = none) := by
  have head : Builder.withFollowUp (b.dependent f) = [q.field] ↔
      b.dependent f = q.field ∧ Builder.withFollowUp q.field = [q.field] := by
    constructor
    · intro same
      have first := head?_withFollowUp (b.dependent f)
      rw [same, List.head?_cons] at first
      have eq : b.dependent f = q.field := (Option.some.inj first).symm
      rw [eq] at same
      exact ⟨eq, same⟩
    · rintro ⟨same, alone⟩
      rw [same, alone]
  rw [head, dependent_eq_field_iff sound free, withFollowUp_field, and_right_comm, and_assoc]

/-- Do the questions fit, one after the other, after some fields? -/
def FitAll (before : List Field) : List Question → Prop
  | [] => True
  | q :: qs => q.Fits before ∧ FitAll (before ++ [q.field]) qs

theorem fitAll_append {before : List Field} {qs rest : List Question} :
    FitAll before (qs ++ rest) ↔ FitAll before qs ∧ FitAll (before ++ qs.map field) rest := by
  induction qs generalizing before with
  | nil => simp [FitAll]
  | cons q qs ih =>
      rw [List.cons_append, FitAll, FitAll, ih, List.map_cons, and_assoc, List.append_assoc]
      rfl

end Question

namespace Builder

/-- What adding the line of a question can do. -/
theorem addLine_question {b b' : Builder} {draft : Draft} (current : b.current = some draft)
    {q : Question} (given : fieldOfLine q.line ≠ .ok none) (h : b.addLine q.line = .ok b') :
    ∃ f, fieldOfLine q.line = .ok (some f) ∧ b'.earlier = b.earlier ∧
      b'.current = some
        { draft with fields := draft.fields ++ withFollowUp (b.dependent f) } := by
  simp only [addLine, current] at h
  cases read : fieldOfLine q.line with
  | error e => simp [read, bind, Except.bind] at h
  | ok found =>
      cases found with
      | none => exact absurd read given
      | some f =>
          simp only [read, bind, Except.bind] at h
          cases h
          exact ⟨f, rfl, rfl, rfl⟩

theorem addLine_ok {b : Builder} {draft : Draft} (current : b.current = some draft)
    {line : List Char} {f : Field} (read : fieldOfLine line = .ok (some f)) :
    ∃ b', b.addLine line = .ok b' := by
  simp only [addLine, current, read]
  exact ⟨_, rfl⟩

end Builder

/-- A question whose line can be read, with its label to the end. -/
def Question.Legible (q : Question) : Prop :=
  q.label.chars.getLast? ≠ some ':' ∧ ¬ EndlessRange q.attributes

/-- A section whose lines can be read, with its heading to the end. -/
def Part.Legible (part : Part) : Prop :=
  part.title.chars.getLast? ≠ some ':' ∧ ∀ q ∈ part.questions, q.Legible

/-- A section under way with at least one field for each question of a planned one. -/
def Part.Covers (part : Part) (draft : Draft) : Prop :=
  ∃ fields, draft = ⟨part.title.text, [], fields⟩ ∧ part.questions.length ≤ fields.length

namespace Document

open Question (FitAll fitAll_append)

variable {d d' : Document} {draft : Draft}

/-- After some fields have been added to the section under way. -/
structure Grown (d : Document) (draft : Draft) (added : List Field) (d' : Document) : Prop where
  kept : d' = { d with builder := d'.builder }
  earlier : d'.builder.earlier = d.builder.earlier
  current : d'.builder.current = some { draft with fields := draft.fields ++ added }

theorem Grown.fields {added : List Field} (h : Grown d draft added d')
    (current : d.builder.current = some draft) : d'.fields = d.fields ++ added := by
  simp [Document.fields, Builder.fields, Builder.sections, h.earlier, h.current, current]

theorem Grown.place {added : List Field} (h : Grown d draft added d') : d'.place = d.place := by
  rw [h.kept]

/-- What the line of a question does, if it can be read. -/
theorem grown_of_addLine {q : Question} (sound : d.Sound) (place : d.place = .inSection)
    (current : d.builder.current = some draft) (legible : q.Legible)
    (h : d.addLine q.line = .ok d') : ∃ added, Grown d draft added d' ∧ added ≠ [] ∧
      (added = [q.field] ↔ q.Fits d.fields) := by
  rw [addLine_question place] at h
  cases step : d.builder.addLine q.line with
  | error e => simp [step, Except.map] at h
  | ok b =>
      rw [step] at h
      cases h
      obtain ⟨f, read, earlier, now⟩ :=
        Builder.addLine_question current (q.fieldOfLine_ne_none legible.1 legible.2) step
      have clear := q.fieldOfLine_eq_field_iff legible.1 legible.2
      rw [read, Except.ok.injEq, Option.some.injEq] at clear
      refine ⟨_, ⟨rfl, earlier, now⟩, fun none_added => ?_, ?_⟩
      · have head := Question.head?_withFollowUp (d.builder.dependent f)
        rw [none_added] at head
        cases head
      · rw [q.withFollowUp_dependent sound.builder (asked_of_line read).free, clear]
        exact ⟨fun ⟨clear, alone, independent⟩ => ⟨clear, alone, independent⟩,
          fun fits => ⟨fits.clear, fits.alone, fits.independent⟩⟩

theorem addLine_of_fits {q : Question} (place : d.place = .inSection)
    (current : d.builder.current = some draft) (legible : q.Legible) (fits : q.Fits d.fields) :
    ∃ d', d.addLine q.line = .ok d' := by
  obtain ⟨b, step⟩ := Builder.addLine_ok current
    ((q.fieldOfLine_eq_field_iff legible.1 legible.2).mpr fits.clear)
  rw [addLine_question place, step]
  exact ⟨_, rfl⟩

/-- Two lists make up a list of the least length they can have only if each has its least length. -/
theorem append_eq_cons_iff_of_length {first rest xs : List Field} {x : Field} (filled : first ≠ [])
    (length : xs.length ≤ rest.length) : first ++ rest = x :: xs ↔ first = [x] ∧ rest = xs := by
  constructor
  · intro same
    have some_first := List.length_pos_of_ne_nil filled
    have lengths := congrArg List.length same
    rw [List.length_append, List.length_cons] at lengths
    refine List.append_inj same ?_
    rw [List.length_singleton]
    omega
  · rintro ⟨rfl, rfl⟩
    rfl

/-- The lines of questions add at least one field for each question, and the fields that ask them
exactly when the questions fit. -/
theorem grown_of_addLines {qs : List Question} (sound : d.Sound) (place : d.place = .inSection)
    (current : d.builder.current = some draft) (legible : ∀ q ∈ qs, q.Legible)
    (h : d.addLines (qs.map Question.line) = .ok d') : ∃ added, Grown d draft added d' ∧
      qs.length ≤ added.length ∧ (added = qs.map Question.field ↔ FitAll d.fields qs) := by
  induction qs generalizing d draft with
  | nil =>
      cases h
      exact ⟨[], ⟨rfl, rfl, by rw [current, List.append_nil]⟩, Nat.le_refl 0, by simp [FitAll]⟩
  | cons q qs ih =>
      rw [List.map_cons, addLines] at h
      cases step : d.addLine q.line with
      | error e => simp [step, bind, Except.bind] at h
      | ok next =>
          rw [step] at h
          obtain ⟨here, others⟩ := List.forall_mem_cons.mp legible
          obtain ⟨first, grown, some_added, fits⟩ :=
            grown_of_addLine sound place current here step
          obtain ⟨rest, grown', length, fit⟩ :=
            ih (sound.addLine step) (grown.place.trans place) grown.current others h
          have one := List.length_pos_of_ne_nil some_added
          rw [grown.fields current] at fit
          refine ⟨first ++ rest, ⟨?_, ?_, ?_⟩, ?_, ?_⟩
          · rw [grown'.kept, grown.kept]
          · rw [grown'.earlier, grown.earlier]
          · rw [grown'.current, List.append_assoc]
          · rw [List.length_cons, List.length_append]
            omega
          · rw [List.map_cons, append_eq_cons_iff_of_length some_added (by simpa using length), FitAll,
              ← fits]
            refine and_congr_right fun alone => ?_
            rw [fit, alone]

theorem addLines_of_fitAll {qs : List Question} (sound : d.Sound) (place : d.place = .inSection)
    (current : d.builder.current = some draft) (legible : ∀ q ∈ qs, q.Legible)
    (fit : FitAll d.fields qs) : ∃ d', d.addLines (qs.map Question.line) = .ok d' := by
  induction qs generalizing d draft with
  | nil => exact ⟨d, rfl⟩
  | cons q qs ih =>
      obtain ⟨here, others⟩ := List.forall_mem_cons.mp legible
      obtain ⟨next, step⟩ := addLine_of_fits place current here fit.1
      obtain ⟨added, grown, _, fits⟩ := grown_of_addLine sound place current here step
      have now := grown.fields current
      rw [fits.mpr fit.1] at now
      obtain ⟨last, run⟩ := ih (sound.addLine step) (grown.place.trans place) grown.current others
        (now ▸ fit.2)
      refine ⟨last, ?_⟩
      rw [List.map_cons, addLines, step]
      exact run

/-! ## Sections -/

/-- After some sections have been added. -/
structure Drafted (d : Document) (drafts : List Draft) (d' : Document) : Prop where
  title : d'.title = d.title
  intro : d'.intro = d.intro
  trailer : d'.trailer = d.trailer
  sections : d'.builder.sections = d.builder.sections ++ drafts

theorem Drafted.fields {drafts : List Draft} (h : Drafted d drafts d') :
    d'.fields = d.fields ++ drafts.flatMap Draft.fields := by
  simp [Document.fields, Builder.fields, h.sections]

/-- The document with a heading added. -/
def opened (d : Document) (title : String) : Document :=
  { d with builder := d.builder.openSection title, place := .inSection }

theorem Sound.opened (h : d.Sound) (title : String) : (d.opened title).Sound :=
  ⟨h.builder.openSection title, fun _ => rfl⟩

theorem fields_opened (d : Document) (title : String) : (d.opened title).fields = d.fields :=
  Builder.fields_openSection d.builder title

theorem addLines_part {part : Part} (legible : part.Legible) : d.addLines part.lines =
    (d.opened part.title.text).addLines (part.questions.map Question.line) := by
  rw [Part.lines, addLines, addLine_section legible.1]
  rfl

/-- The lines of a section add this section, with at least one field for each question, and with
the fields that ask them exactly when the questions fit. -/
theorem drafted_of_part {part : Part} (sound : d.Sound) (legible : part.Legible)
    (h : d.addLines part.lines = .ok d') : ∃ draft, Drafted d [draft] d' ∧ part.Covers draft ∧
      (draft.fields = part.fields ↔ FitAll d.fields part.questions) := by
  rw [addLines_part legible] at h
  obtain ⟨added, grown, length, fit⟩ :=
    grown_of_addLines (sound.opened part.title.text) rfl rfl legible.2 h
  rw [fields_opened] at fit
  refine ⟨⟨part.title.text, [], added⟩, ⟨?_, ?_, ?_, ?_⟩, ⟨added, rfl, length⟩, fit⟩
  · rw [grown.kept]
    rfl
  · rw [grown.kept]
    rfl
  · rw [grown.kept]
    rfl
  · rw [Builder.sections, grown.earlier, grown.current]
    rfl

theorem addLines_append (d : Document) (front back : List (List Char)) :
    d.addLines (front ++ back) = (d.addLines front).bind fun d => d.addLines back := by
  induction front generalizing d with
  | nil => rfl
  | cons line front ih =>
      rw [List.cons_append, addLines, addLines]
      cases d.addLine line with
      | error e => rfl
      | ok next => exact ih next

theorem drafted_of_parts {parts : List Part} (sound : d.Sound)
    (legible : ∀ part ∈ parts, part.Legible)
    (h : d.addLines (parts.flatMap Part.lines) = .ok d') : ∃ drafts, Drafted d drafts d' ∧
      List.Forall₂ Part.Covers parts drafts ∧
      (drafts.map Draft.fields = parts.map Part.fields ↔
        FitAll d.fields (parts.flatMap Part.questions)) := by
  induction parts generalizing d with
  | nil =>
      cases h
      exact ⟨[], ⟨rfl, rfl, rfl, (List.append_nil _).symm⟩, .nil, by simp [FitAll]⟩
  | cons part parts ih =>
      rw [List.flatMap_cons, addLines_append] at h
      cases step : d.addLines part.lines with
      | error e => simp [step, Except.bind] at h
      | ok next =>
          rw [step] at h
          obtain ⟨here, others⟩ := List.forall_mem_cons.mp legible
          obtain ⟨draft, drafted, covers, fits⟩ := drafted_of_part sound here step
          obtain ⟨drafts, drafted', covered, fit⟩ := ih (sound.addLines step) others h
          have now := drafted.fields
          rw [List.flatMap_singleton] at now
          rw [now] at fit
          refine ⟨draft :: drafts, ⟨?_, ?_, ?_, ?_⟩, .cons covers covered, ?_⟩
          · rw [drafted'.title, drafted.title]
          · rw [drafted'.intro, drafted.intro]
          · rw [drafted'.trailer, drafted.trailer]
          · rw [drafted'.sections, drafted.sections, List.append_assoc]
            rfl
          · rw [List.map_cons, List.map_cons, List.cons.injEq, List.flatMap_cons, fitAll_append,
              ← fits]
            refine and_congr_right fun same => ?_
            rw [fit, same]
            rfl

theorem addLines_of_parts {parts : List Part} (sound : d.Sound)
    (legible : ∀ part ∈ parts, part.Legible)
    (fit : FitAll d.fields (parts.flatMap Part.questions)) :
    ∃ d', d.addLines (parts.flatMap Part.lines) = .ok d' := by
  induction parts generalizing d with
  | nil => exact ⟨d, rfl⟩
  | cons part parts ih =>
      obtain ⟨here, others⟩ := List.forall_mem_cons.mp legible
      rw [List.flatMap_cons, fitAll_append] at fit
      obtain ⟨next, step⟩ : ∃ d', d.addLines part.lines = .ok d' := by
        rw [addLines_part here]
        refine addLines_of_fitAll (sound.opened part.title.text) rfl rfl here.2 ?_
        rw [fields_opened]
        exact fit.1
      obtain ⟨draft, drafted, _, fits⟩ := drafted_of_part sound here step
      have now := drafted.fields
      rw [List.flatMap_singleton, fits.mpr fit.1] at now
      obtain ⟨last, run⟩ := ih (sound.addLines step) others (now ▸ fit.2)
      refine ⟨last, ?_⟩
      rw [List.flatMap_cons, addLines_append, step]
      exact run

end Document

/-! ## Plans -/

namespace Question

theorem lastChoice?_fields (qs : List Question) :
    lastChoice? (qs.map field) = none ↔ ∀ q ∈ qs, q.word.offers = false := by
  rw [lastChoice?, List.getLast?_eq_none_iff, List.filter_eq_nil_iff, List.forall_mem_map]
  simp [isChoice_field]

/-- Questions fit when every one of them fits after those before it. -/
theorem fitAll_iff {earlier qs : List Question} : FitAll (earlier.map field) qs ↔
    ∀ before q after, qs = before ++ q :: after → q.Fits ((earlier ++ before).map field) := by
  induction qs generalizing earlier with
  | nil =>
      refine iff_of_true trivial fun before q after split => ?_
      simp at split
  | cons first rest ih =>
      have next : earlier.map field ++ [first.field] = (earlier ++ [first]).map field := by simp
      rw [FitAll, next, ih]
      constructor
      · rintro ⟨here, later⟩ before q after split
        rcases List.cons_eq_append_iff.mp split with ⟨rfl, same⟩ | ⟨before, rfl, same⟩
        · cases same
          simpa using here
        · simpa using later before q after same
      · intro each
        refine ⟨by simpa using each [] first rest rfl, fun before q after split => ?_⟩
        simpa using each (first :: before) q after (by rw [split]; rfl)

end Question

namespace Plan

open Question (FitAll)

variable {p : Plan}

/-- The questions of a plan fit when they are clear, alone and independent. -/
theorem fitAll_iff (p : Plan) : FitAll [] p.questions ↔
    (∀ q ∈ p.questions, q.Clear) ∧ (∀ q ∈ p.questions, q.Alone) ∧
      ∀ before q after, p.questions = before ++ q :: after →
        Builder.beginsWith "if yes" q.label.text = true →
          ∀ earlier ∈ before, earlier.word.offers = false := by
  rw [← List.map_nil, Question.fitAll_iff]
  simp only [List.nil_append]
  constructor
  · intro fits
    refine ⟨fun q hq => ?_, fun q hq => ?_, fun before q after split yes => ?_⟩
    · obtain ⟨before, after, split⟩ := List.append_of_mem hq
      exact (fits before q after split).clear
    · obtain ⟨before, after, split⟩ := List.append_of_mem hq
      exact (fits before q after split).alone
    · exact (Question.lastChoice?_fields before).mp ((fits before q after split).independent yes)
  · rintro ⟨clear, alone, independent⟩ before q after split
    have inside : q ∈ p.questions := by
      rw [split]
      exact List.mem_append_right _ List.mem_cons_self
    refine ⟨clear q inside, alone q inside, fun yes => ?_⟩
    exact (Question.lastChoice?_fields before).mpr (independent before q after split yes)

/-- The line of the message. -/
def messageLine (p : Plan) : List Char := "Message: \"".toList ++ p.message.chars ++ ['"']

/-- The document after the lines before the first section. -/
def opened (p : Plan) : Document := ⟨some p.title.text, [p.intro.chars], [], Builder.empty, .intro⟩

theorem addLines_opening (proper : p.Proper) : Document.empty.addLines p.opening = .ok p.opened := by
  rw [opening, Document.addLines, Document.addLine_title rfl proper.title]
  change Document.addLines _ _ = _
  rw [Document.addLines, Document.addLine_intro rfl]
  rfl

theorem addLines_closing (p : Plan) (d : Document) : d.addLines p.closing =
    .ok { d with place := .trailer, trailer := d.trailer ++ [p.messageLine] } := by
  rw [closing, Document.addLines, Document.addLine_end]
  change Document.addLines _ _ = _
  rw [Document.addLines, Document.addLine_message rfl]
  rfl

theorem sound_opened (p : Plan) : p.opened.Sound := ⟨Builder.sound_empty, nofun⟩

theorem parse_prompt (proper : p.Proper) : Document.parse p.prompt =
    (p.opened.addLines (p.parts.flatMap Part.lines)).map fun d =>
      { d with place := .trailer, trailer := d.trailer ++ [p.messageLine] } := by
  rw [prompt, Document.parse_join p.isLine, lines, Document.addLines_append,
    Document.addLines_append, addLines_opening proper]
  simp only [Except.bind, addLines_closing]
  cases p.opened.addLines (p.parts.flatMap Part.lines) <;> rfl

/-! ## Forms of plans -/

/-- The form of sections under way, before it is enriched. -/
def bareForm (p : Plan) (drafts : List Draft) : Form where
  title := p.title.text
  description := some p.intro.text
  sections := drafts.map fun draft => ⟨draft.title, none, draft.fields, []⟩
  settings := (trailerMessage? [p.messageLine]).map fun message =>
    { Settings.none with confirmationMessage := some message }
  extras := []

theorem sections_eq_iff {parts : List Part} {drafts : List Draft}
    (covered : List.Forall₂ Part.Covers parts drafts) :
    (drafts.map fun draft => (⟨draft.title, none, draft.fields, []⟩ : Section)) =
        parts.map Part.toSection ↔ drafts.map Draft.fields = parts.map Part.fields := by
  induction covered with
  | nil => simp
  | cons covers _ ih =>
      obtain ⟨fields, rfl, _⟩ := covers
      simp only [List.map_cons, List.cons.injEq, ih]
      simp [Part.toSection]

theorem bareForm_eq_form_iff {drafts : List Draft}
    (covered : List.Forall₂ Part.Covers p.parts drafts) : p.bareForm drafts = p.form ↔
      drafts.map Draft.fields = p.parts.map Part.fields ∧
        trailerMessage? [p.messageLine] = some p.message.text := by
  rw [← sections_eq_iff covered]
  simp only [bareForm, form, Form.mk.injEq, true_and, and_true]
  refine and_congr_right fun _ => ?_
  cases trailerMessage? [p.messageLine] <;> simp

theorem length_questions_le {parts : List Part} {drafts : List Draft}
    (covered : List.Forall₂ Part.Covers parts drafts) :
    (parts.flatMap Part.questions).length ≤ (drafts.flatMap Draft.fields).length := by
  induction covered with
  | nil => exact Nat.le_refl 0
  | cons covers _ ih =>
      obtain ⟨fields, rfl, length⟩ := covers
      rw [List.flatMap_cons, List.flatMap_cons, List.length_append, List.length_append]
      exact Nat.add_le_add length ih

theorem length_fields_form (p : Plan) : p.form.fields.length = p.questions.length := by
  simp only [Form.fields, form, questions, List.length_flatMap, List.map_map]
  refine congrArg List.sum (List.map_congr_left fun part _ => ?_)
  simp [Part.toSection, Part.fields]

theorem fields_bareForm (p : Plan) (drafts : List Draft) :
    (p.bareForm drafts).fields = drafts.flatMap Draft.fields := by
  rw [Form.fields, bareForm, List.flatMap_map]

theorem bareForm_sections {drafts : List Draft}
    (covered : List.Forall₂ Part.Covers p.parts drafts) : (p.bareForm drafts).sections ≠ [] := by
  rw [bareForm, ne_eq, List.map_eq_nil_iff]
  rintro rfl
  exact p.filled (List.forall₂_nil_right_iff.mp covered)

theorem exists_covered {parts : List Part} {drafts : List Draft}
    (covered : List.Forall₂ Part.Covers parts drafts) :
    ∀ draft ∈ drafts, ∃ part : Part, part.Covers draft := by
  induction covered with
  | nil => exact nofun
  | cons covers _ ih => exact List.forall_mem_cons.mpr ⟨⟨_, covers⟩, ih⟩

theorem sections_of_covered {d : Document}
    (covered : List.Forall₂ Part.Covers p.parts d.builder.sections) :
    d.sections = d.builder.sections.map fun draft => ⟨draft.title, none, draft.fields, []⟩ := by
  have each : ∀ draft ∈ d.builder.sections, draft.fields ≠ [] ∧ draft.description = [] := by
    intro draft hd
    obtain ⟨part, fields, rfl, length⟩ := exists_covered covered draft hd
    have some_question := List.length_pos_of_ne_nil part.filled
    exact ⟨List.ne_nil_of_length_pos (by simp only; omega), rfl⟩
  rw [Document.sections, List.filter_eq_self.mpr fun draft hd => by simpa using (each draft hd).1]
  refine List.map_congr_left fun draft hd => ?_
  rw [(each draft hd).2]
  rfl

theorem form?_of_covered {d : Document} (title : d.title = some p.title.text)
    (intro : d.intro = [p.intro.chars]) (trailer : d.trailer = [p.messageLine])
    (covered : List.Forall₂ Part.Covers p.parts d.builder.sections) :
    d.form? p.prompt = some ((p.bareForm d.builder.sections).enrich p.prompt) := by
  have some_section : d.sections ≠ [] := by
    rw [sections_of_covered covered]
    exact bareForm_sections covered
  have given : nonEmpty? p.title.text = some p.title.text :=
    if_neg (by simpa [Phrase.text] using p.title.filled)
  have described : trimmed? (String.ofList (join [' '] [p.intro.chars])) = some p.intro.text := by
    rw [join, List.intercalate_singleton, trimmed?, PromptForm.trimmed, onText,
      String.toList_ofList, p.intro.trimmed]
    exact if_neg (by simpa using p.intro.filled)
  rw [Document.form?]
  split
  · contradiction
  · rw [title, Option.bind_some, given, intro, described, trailer, sections_of_covered covered]
    rfl

/-- A plan whose lines can be read, with titles and labels to the end. -/
theorem legible (proper : p.Proper) (readable : ∀ q ∈ p.questions, ¬ EndlessRange q.attributes) :
    ∀ part ∈ p.parts, part.Legible := fun part hp =>
  have inside (q : Question) (hq : q ∈ part.questions) : q ∈ p.questions :=
    List.mem_flatMap.mpr ⟨part, hp, hq⟩
  ⟨proper.headings part hp, fun q hq =>
    ⟨proper.labels q (inside q hq), readable q (inside q hq)⟩⟩

/-- What the prompt of a plan gives, if its lines can be read. -/
theorem formOfPrompt?_of_addLines (proper : p.Proper)
    (readable : ∀ q ∈ p.questions, ¬ EndlessRange q.attributes) {d : Document}
    (run : p.opened.addLines (p.parts.flatMap Part.lines) = .ok d) : ∃ drafts,
      formOfPrompt? p.prompt = .ok (some ((p.bareForm drafts).enrich p.prompt)) ∧
      List.Forall₂ Part.Covers p.parts drafts ∧
      (drafts.map Draft.fields = p.parts.map Part.fields ↔ FitAll [] p.questions) := by
  obtain ⟨drafts, drafted, covered, fit⟩ :=
    Document.drafted_of_parts p.sound_opened (Plan.legible proper readable) run
  have sections : d.builder.sections = drafts := drafted.sections
  refine ⟨drafts, ?_, covered, fit⟩
  rw [← sections] at covered ⊢
  rw [formOfPrompt?, parse_prompt proper, run]
  exact congrArg Except.ok (form?_of_covered drafted.title drafted.intro
    (congrArg (· ++ [p.messageLine]) drafted.trailer) covered)

end Plan

/-- The outline of a plan gives the form that was planned exactly when the plan is clear. -/
theorem formOfPrompt?_prompt_iff (p : Plan) (proper : p.Proper)
    (readable : ∀ q ∈ p.questions, ¬ EndlessRange q.attributes) :
    formOfPrompt? p.prompt = .ok (some p.form) ↔ p.Clear := by
  constructor
  · intro given
    cases run : p.opened.addLines (p.parts.flatMap Part.lines) with
    | error e =>
        rw [formOfPrompt?, Plan.parse_prompt proper, run] at given
        cases given
    | ok d =>
        obtain ⟨drafts, made, covered, fit⟩ := Plan.formOfPrompt?_of_addLines proper readable run
        rw [given, Except.ok.injEq, Option.some.injEq] at made
        -- there are no more fields than questions, so none is added
        have short : ((p.bareForm drafts).enrich p.prompt).fields.length ≤
            (p.bareForm drafts).fields.length := by
          rw [← made, p.length_fields_form, p.fields_bareForm]
          exact Plan.length_questions_le covered
        have complete := (Form.length_fields_enrich (Plan.bareForm_sections covered) p.prompt).2 short
        have same : p.form = p.bareForm drafts := made.trans (Form.enrich_of_complete complete)
        obtain ⟨fields, message⟩ := (Plan.bareForm_eq_form_iff covered).mp same.symm
        obtain ⟨clear, alone, independent⟩ := p.fitAll_iff.mp (fit.mp fields)
        obtain ⟨unclosed, bare⟩ := (trailerMessage?_eq_iff p.message).mp message
        exact ⟨clear, alone, independent, unclosed, bare, same ▸ complete⟩
  · intro clear
    have fitted := p.fitAll_iff.mpr ⟨clear.clear, clear.alone, clear.independent⟩
    obtain ⟨d, run⟩ := Document.addLines_of_parts p.sound_opened (Plan.legible proper readable) fitted
    obtain ⟨drafts, made, covered, fit⟩ := Plan.formOfPrompt?_of_addLines proper readable run
    have message := (trailerMessage?_eq_iff p.message).mpr ⟨clear.message, clear.bare⟩
    rw [made, (Plan.bareForm_eq_form_iff covered).mpr ⟨fit.mpr fitted, message⟩,
      Form.enrich_of_complete clear.complete]

/-! ## Plans about sizes -/

theorem Plan.mentions (p : Plan) (needle : String) : containsText needle (lowered p.prompt) =
    contains needle.toList (lower (join ['\n'] p.lines)) := by
  rw [containsText, lowered, onText, Plan.prompt, String.toList_ofList, String.toList_ofList]

/-- A text as a phrase, if it is one. -/
def Phrase.of (s : String)
    (h : s.toList ≠ [] ∧ trim s.toList = s.toList ∧ s.toList.all (!isLineEnd ·) = true) : Phrase :=
  ⟨s.toList, h.1, h.2.1, forall_of_all h.2.2⟩

/-- A plan that asks for an address and for a size out of some. -/
def sizes (options : List Phrase) (offered : options.isEmpty = false) : Plan where
  title := .of "Shirts" (by decide)
  intro := .of "Pick one" (by decide)
  parts := [
    { title := .of "Fit" (by decide)
      questions := [
        { label := .of "Date (1-2)" (by decide)
          word := .shortText
          required := true
          options := []
          offered := rfl },
        { label := .of "Size" (by decide)
          word := .dropdown
          required := false
          options := options
          offered := offered }]
      filled := by simp }]
  message := .of "Bye (2)" (by decide)
  filled := by simp

theorem sizes_proper (options : List Phrase) (offered : options.isEmpty = false) :
    (sizes options offered).Proper where
  title := by
    have kept : stripWhere isQuoteMark "Shirts".toList = "Shirts".toList := by
      decide
    exact stripWhere_eq_self.mp kept
  headings := by
    simp only [sizes, List.forall_mem_singleton]
    decide
  labels := by
    simp only [sizes, Plan.questions, List.flatMap_singleton, List.forall_mem_cons]
    exact ⟨by decide, by decide, nofun⟩

/-- The sizes. -/
def shortSizes : List Phrase := [.of "S" (by decide), .of "M/L" (by decide)]

theorem readable_of_none {p : Plan} (h : ∀ q ∈ p.questions, rangeDigits? q.attributes = none) :
    ∀ q ∈ p.questions, ¬ EndlessRange q.attributes := by
  rintro q hq ⟨low, high, found, _⟩
  rw [h q hq] at found
  cases found

theorem clear_shortSizes : (sizes shortSizes rfl).Clear where
  clear := by
    simp only [sizes, Plan.questions, List.flatMap_singleton, List.forall_mem_cons]
    refine ⟨⟨by decide, nofun, nofun, nofun, nofun⟩, ⟨by decide, by decide, ?_⟩, nofun⟩
    exact Separable.of_several (by decide) (by decide)
  alone := by
    simp only [sizes, Plan.questions, List.flatMap_singleton, List.forall_mem_cons]
    exact ⟨nofun, nofun, nofun⟩
  independent before q after split yes := by
    have plain : ∀ q ∈ (sizes shortSizes rfl).questions,
        Builder.beginsWith "if yes" q.label.text = false := by
      decide +kernel
    rw [plain q (by rw [split]; simp)] at yes
    cases yes
  message := forall_of_all (by decide)
  bare := by
    have kept : stripWhere isOpeningQuote "Bye (2)".toList =
        "Bye (2)".toList := by
      decide
    exact stripWhere_eq_self.mp kept
  complete := by
    have unmentioned : ∀ e ∈ Enrichment.all,
        contains e.trigger.toList (lower (join ['\n'] (sizes shortSizes rfl).lines)) = false := by
      decide +kernel
    intro e he mentioned
    rw [Plan.mentions, unmentioned e he] at mentioned
    cases mentioned

theorem formOfPrompt?_shortSizes :
    formOfPrompt? (sizes shortSizes rfl).prompt = .ok (some (sizes shortSizes rfl).form) :=
  (formOfPrompt?_prompt_iff _ (sizes_proper _ _) (readable_of_none (by decide +kernel))).mpr
    clear_shortSizes

/-- Sizes of which one is explained in parentheses. -/
def explainedSizes : List Phrase := [.of "S (small)" (by decide), .of "M" (by decide)]

/-- The form of a prompt has a field for every field of its lines. -/
theorem mem_fields_of_addLines {lines : List (List Char)} (h : ∀ l ∈ lines, IsLine l)
    {form : Form} (given : formOfPrompt? (String.ofList (join ['\n'] lines)) = .ok (some form))
    {labels : List String} (labeled : ((Document.empty.addLines lines).toOption.map fun d =>
      d.fields.map Field.label) = some labels) : ∀ s ∈ labels, s ∈ form.fields.map Field.label := by
  intro s hs
  rw [formOfPrompt?, Document.parse_join h] at given
  cases run : Document.empty.addLines lines with
  | error e =>
      rw [run] at given
      cases given
  | ok d =>
      rw [run] at given labeled
      have read : d.fields.map Field.label = labels := Option.some.inj labeled
      rw [← read] at hs
      obtain ⟨f, hf, rfl⟩ := List.mem_map.mp hs
      obtain ⟨bare, rfl, own | ⟨none_left, _⟩⟩ := Document.form?_cases (Except.ok.inj given)
      · exact List.mem_map_of_mem ((bare.enrich_woven _).mem_of_own (own ▸ hf))
      · rw [none_left] at hf
        cases hf

theorem formOfPrompt?_explainedSizes :
    (sizes explainedSizes rfl).Proper ∧
    formOfPrompt? (sizes explainedSizes rfl).prompt ≠
      .ok (some (sizes explainedSizes rfl).form) := by
  refine ⟨sizes_proper _ _, fun same => ?_⟩
  have labels : ((Document.empty.addLines (sizes explainedSizes rfl).lines).toOption.map fun d =>
      d.fields.map Field.label) = some ["Date (1-2)", "Size (dropdown: S (small), M)"] := by
    decide +kernel
  have kept := mem_fields_of_addLines (Plan.isLine _) same labels "Size (dropdown: S (small), M)"
    (by decide)
  revert kept
  decide +kernel

end PromptForm.Outline
