import PromptForm.Outline.Builder
import PromptForm.Proofs.Outline.Line

/-! # Fields of outlines

The builder of an outline remembers the last field whose answer is picked from options. A field that
depends on another one depends on an answer to that one, because it says so or because it asks to
specify it.
-/

namespace PromptForm.Outline

def lastChoice? (fields : List Field) : Option Field := (fields.filter Field.isChoice).getLast?

theorem lastChoice?_concat (fields : List Field) (f : Field) :
    lastChoice? (fields ++ [f]) = if f.isChoice then some f else lastChoice? fields := by
  cases choice : f.isChoice <;> simp [lastChoice?, List.filter_append, choice]

theorem lastChoice?_eq_some {fields : List Field} {source : Field}
    (h : lastChoice? fields = some source) : ∃ before after, fields = before ++ source :: after ∧
      source.isChoice = true ∧ ∀ f ∈ after, f.isChoice = false := by
  obtain ⟨front, split⟩ := List.getLast?_eq_some_iff.mp h
  obtain ⟨before, after, rfl, _, rest⟩ := List.filter_eq_append_iff.mp split
  obtain ⟨passed, last, rfl, plain, choice, none_left⟩ := List.filter_eq_cons_iff.mp rest
  refine ⟨before ++ passed, last, by rw [List.append_assoc], choice, fun f hf => ?_⟩
  exact eq_false_of_ne_true (List.filter_eq_nil_iff.mp none_left f hf)

/-- An answer that fields depend on. -/
def Awaited (answer : String) : Prop := answer = "Yes" ∨ Builder.beginsWith "other" answer = true

/-- A field that comes after others depends, if at all, on an answer to the last choice among
them. -/
def Follows (before : List Field) (f : Field) : Prop :=
  ∀ expr, f.showIf = some expr → ∃ source answer, lastChoice? before = some source ∧
    Awaited answer ∧ expr = Builder.answered source.label answer

theorem Follows.of_free {before : List Field} {f : Field} (free : f.showIf = none) :
    Follows before f := by
  intro expr written
  rw [free] at written
  cases written

/-- Every field stands in a relation to those before it. -/
def Each (R : List Field → Field → Prop) (fields : List Field) : Prop :=
  ∀ before f after, fields = before ++ f :: after → R before f

theorem Each.nil {R : List Field → Field → Prop} : Each R [] := by
  intro before f after split
  simp at split

theorem Each.concat {R : List Field → Field → Prop} {fields : List Field} {f : Field}
    (h : Each R fields) (last : R fields f) : Each R (fields ++ [f]) := by
  intro before g after split
  rcases split_concat split with ⟨rfl, rfl, _⟩ | ⟨rest, _, rfl⟩
  · exact last
  · exact h before g rest rfl

/-- Every field follows those before it. -/
def Orderly (fields : List Field) : Prop :=
  ∀ before f after, fields = before ++ f :: after → Follows before f

theorem Orderly.nil : Orderly [] := Each.nil

theorem Orderly.concat {fields : List Field} {f : Field} (h : Orderly fields)
    (follows : Follows fields f) : Orderly (fields ++ [f]) := Each.concat h follows

namespace Builder

def fields (b : Builder) : List Field := b.sections.flatMap Draft.fields

/-- The fields are usual ones that follow those before them, and the last choice is known. -/
structure Sound (b : Builder) : Prop where
  usual : ∀ f ∈ b.fields, f.Usual
  orderly : Orderly b.fields
  last : b.lastChoice = lastChoice? b.fields

theorem sound_empty : empty.Sound where
  usual f hf := by cases hf
  orderly := Orderly.nil
  last := rfl

theorem fields_openSection (b : Builder) (title : String) :
    (b.openSection title).fields = b.fields := by
  simp [fields, sections, openSection]

theorem Sound.openSection {b : Builder} (h : b.Sound) (title : String) :
    (b.openSection title).Sound where
  usual f hf := h.usual f (fields_openSection b title ▸ hf)
  orderly := (fields_openSection b title).symm ▸ h.orderly
  last := h.last.trans (congrArg lastChoice? (fields_openSection b title).symm)

variable {b : Builder} {f : Field}

theorem usual_dependent (asked : f.Asked) : (b.dependent f).Usual := by
  simp only [dependent]
  split
  · split
    · exact { asked.toUsual with }
    · exact asked.toUsual
  · exact asked.toUsual

theorem follows_dependent (h : b.Sound) (asked : f.Asked) : Follows b.fields (b.dependent f) := by
  cases last : b.lastChoice with
  | none =>
      simp only [dependent, last]
      exact Follows.of_free asked.free
  | some choice =>
      simp only [dependent, last]
      split
      · intro expr written
        cases written
        exact ⟨choice, "Yes", by rw [← h.last, last], .inl rfl, rfl⟩
      · exact Follows.of_free asked.free

theorem isBlankText_specify (f : Field) (other : String) :
    isBlankText (specifyField f other).label = false := by
  have label : (specifyField f other).label =
      onText (Text.dropEndWhile fun c => c == '?' || c == ':') f.label ++ ": please specify" := rfl
  have shown : (": please specify".toList.all Text.isBlank) = false := by decide
  rw [label, isBlankText, String.toList_append, List.all_append, shown, Bool.and_false]

theorem usual_specifyField (f : Field) (other : String) : (specifyField f other).Usual :=
  { Field.asked_plain .text _ rfl (isBlankText_specify f other) with }

theorem kind?_specifyField (f : Field) (other : String) :
    (specifyField f other).kind? = some .text :=
  Kind.ofName?_name .text

theorem isChoice_specifyField (f : Field) (other : String) :
    (specifyField f other).isChoice = false := by
  rw [Field.isChoice, kind?_specifyField]
  rfl

/-- What a field of a line adds: the field, and what asks to specify it. -/
theorem sound_withFollowUp {fields : List Field} (usual : ∀ g ∈ fields, g.Usual)
    (orderly : Orderly fields) (hf : f.Usual) (follows : Follows fields f) :
    (∀ g ∈ fields ++ withFollowUp f, g.Usual) ∧ Orderly (fields ++ withFollowUp f) ∧
      lastChoice? (fields ++ withFollowUp f) =
        if f.isChoice then some f else lastChoice? fields := by
  have usual' : ∀ g ∈ fields ++ [f], g.Usual := by
    intro g hg
    rcases List.mem_append.mp hg with hg | hg
    · exact usual g hg
    · rw [List.mem_singleton] at hg
      exact hg ▸ hf
  have alone := And.intro usual' (And.intro (orderly.concat follows) (lastChoice?_concat fields f))
  simp only [withFollowUp]
  split
  · rename_i boxes
    cases found : otherOption? f with
    | none => exact alone
    | some other =>
        have choice : f.isChoice = true := by
          rw [Field.isChoice, boxes]
          rfl
        have last : lastChoice? (fields ++ [f]) = some f := by
          rw [lastChoice?_concat, choice, if_pos rfl]
        have specifies : Follows (fields ++ [f]) (specifyField f other) := by
          intro expr written
          cases written
          exact ⟨f, other, last, .inr (List.find?_some found), rfl⟩
        have regroup : fields ++ f :: ((some other).map (specifyField f)).toList =
            fields ++ [f] ++ [specifyField f other] := by simp
        rw [regroup]
        refine ⟨fun g hg => ?_, alone.2.1.concat specifies, ?_⟩
        · rcases List.mem_append.mp hg with hg | hg
          · exact usual' g hg
          · rw [List.mem_singleton] at hg
            exact hg ▸ usual_specifyField f other
        · rw [lastChoice?_concat, isChoice_specifyField, if_neg Bool.false_ne_true, last, choice,
            if_pos rfl]
  · exact alone

/-- What adding a line does, when it does not fail: the last section gets the fields of the line, or
the line goes to its description while it has no fields. -/
theorem addLine_inversion {cs : List Char} {b' : Builder} (h : b.addLine cs = .ok b') :
    ∃ draft, b.current = some draft ∧
      ((∃ f, fieldOfLine cs = .ok (some f) ∧
        b' = { b with
          current := some { draft with fields := draft.fields ++ withFollowUp (b.dependent f) }
          lastChoice :=
            if (b.dependent f).isChoice then some (b.dependent f) else b.lastChoice }) ∨
      fieldOfLine cs = .ok none ∧ (draft.fields = [] ∧
        b' = { b with
          current := some { draft with
            description := draft.description ++ [String.ofList (Text.trim cs)] } } ∨
        draft.fields ≠ [] ∧ b' = b)) := by
  simp only [addLine] at h
  cases current : b.current with
  | none => simp [current, throw, throwThe, MonadExceptOf.throw] at h
  | some draft =>
      refine ⟨draft, rfl, ?_⟩
      cases read : fieldOfLine cs with
      | error e => simp [current, read, bind, Except.bind] at h
      | ok found =>
          simp only [current, read, bind, Except.bind] at h
          cases found with
          | some f =>
              cases h
              exact .inl ⟨f, rfl, rfl⟩
          | none =>
              refine .inr ⟨rfl, ?_⟩
              simp only at h
              split at h
              · rename_i bare
                cases h
                exact .inl ⟨List.isEmpty_iff.mp bare, rfl⟩
              · rename_i filled
                cases h
                exact .inr ⟨fun bare => filled (List.isEmpty_iff.mpr bare), rfl⟩

/-- What adding a line can do, when it does not fail: the last section gets fields, or its
description may get longer. -/
theorem addLine_eq_ok {cs : List Char} {b' : Builder} (h : b.addLine cs = .ok b') :
    ∃ draft, b.current = some draft ∧
      ((∃ f, fieldOfLine cs = .ok (some f) ∧
        b' = { b with
          current := some { draft with fields := draft.fields ++ withFollowUp (b.dependent f) }
          lastChoice :=
            if (b.dependent f).isChoice then some (b.dependent f) else b.lastChoice }) ∨
      ∃ description, b' = { b with current := some { draft with description := description } }) := by
  obtain ⟨draft, current, field | ⟨_, ⟨_, rfl⟩ | ⟨_, rfl⟩⟩⟩ := addLine_inversion h
  · exact ⟨draft, current, .inl field⟩
  · exact ⟨draft, current, .inr ⟨_, rfl⟩⟩
  · exact ⟨draft, current, .inr ⟨draft.description, by rw [← current]⟩⟩

theorem addLine_cases {cs : List Char} {b' : Builder} (h : b.addLine cs = .ok b') :
    b'.current.isSome = true ∧
      ((∃ f, fieldOfLine cs = .ok (some f) ∧
        b'.fields = b.fields ++ withFollowUp (b.dependent f) ∧
        b'.lastChoice = if (b.dependent f).isChoice then some (b.dependent f) else b.lastChoice) ∨
      (b'.fields = b.fields ∧ b'.lastChoice = b.lastChoice)) := by
  obtain ⟨draft, current, ⟨f, read, rfl⟩ | ⟨description, rfl⟩⟩ := addLine_eq_ok h
  · exact ⟨rfl, .inl ⟨f, read, by simp [fields, sections, current], rfl⟩⟩
  · exact ⟨rfl, .inr ⟨by simp [fields, sections, current], rfl⟩⟩

/-- The fields of a section after a line are those before it, perhaps with those of the line at the
end. -/
theorem sections_addLine {cs : List Char} {b' : Builder} (h : b.addLine cs = .ok b')
    {draft : Draft} (hd : draft ∈ b'.sections) : ∃ old ∈ b.sections, draft.fields = old.fields ∨
      ∃ f, fieldOfLine cs = .ok (some f) ∧
        draft.fields = old.fields ++ withFollowUp (b.dependent f) := by
  obtain ⟨last, current, added⟩ := addLine_eq_ok h
  have among : last ∈ b.sections := by simp [sections, current]
  rcases added with ⟨f, read, rfl⟩ | ⟨description, rfl⟩
  all_goals rcases List.mem_append.mp hd with earlier | here
  · exact ⟨draft, List.mem_append_left _ earlier, .inl rfl⟩
  · obtain rfl := List.mem_singleton.mp here
    exact ⟨last, among, .inr ⟨f, read, rfl⟩⟩
  · exact ⟨draft, List.mem_append_left _ earlier, .inl rfl⟩
  · obtain rfl := List.mem_singleton.mp here
    exact ⟨last, among, .inl rfl⟩

theorem Sound.addLine (h : b.Sound) {cs : List Char} {b' : Builder} (step : b.addLine cs = .ok b') :
    b'.Sound := by
  obtain ⟨_, ⟨f, read, fields, last⟩ | ⟨fields, last⟩⟩ := addLine_cases step
  · have asked := asked_of_line read
    have added := sound_withFollowUp h.usual h.orderly (usual_dependent asked)
      (follows_dependent h asked)
    rw [← fields] at added
    exact ⟨added.1, added.2.1, by rw [last, added.2.2, h.last]⟩
  · exact ⟨by rw [fields]; exact h.usual, by rw [fields]; exact h.orderly,
      by rw [fields, last]; exact h.last⟩

end Builder

end PromptForm.Outline
