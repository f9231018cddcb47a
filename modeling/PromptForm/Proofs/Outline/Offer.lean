import PromptForm.Lowering.Choice
import PromptForm.Proofs.Outline.Resolution
import PromptForm.Proofs.Text.Blank

/-! # Answers that conditions ask for

A field that asks to specify an answer depends on an answer that its question offers. A field that
begins with `If yes` depends on the answer `Yes`, whatever the last question offers, so its
condition can never hold after a question whose options do not have that very text.
-/

namespace PromptForm

/-- The texts of the options that a field offers. -/
def Field.offered (f : Field) : List String := (Choice.normalize (.array f.options)).map Choice.text

namespace Outline

/-! ## Options of lines -/

/-- The options of a field are texts. -/
def Listed (f : Field) : Prop := ∃ texts : List String, f.options = texts.map .text

theorem listed_commonQuestion {label : String} {f : Field} (h : commonQuestion? label = some f) :
    Listed f := by
  obtain ⟨_, texts, _, options⟩ := commonQuestion?_label h
  exact ⟨texts, options⟩

theorem listed_fieldOf (kind : Kind) (label : String) (a : Attributes) :
    Listed (fieldOf kind label a) := by
  have common : ∃ texts : List String,
      ((commonQuestion? label).map Field.options).getD [] = texts.map .text := by
    cases found : commonQuestion? label with
    | none => exact ⟨[], rfl⟩
    | some question => exact listed_commonQuestion found
  cases kind with
  | consentCheckbox =>
      simp only [Listed, fieldOf]
      split
      · exact ⟨[label], rfl⟩
      · exact ⟨a.options, rfl⟩
  | dropdown | multipleChoice | checkboxes | countrySelect =>
      simp only [Listed, fieldOf]
      split
      · exact common
      · exact ⟨a.options, rfl⟩
  | rating | linearScale | nps | likert =>
      simp only [Listed, fieldOf]
      split <;> exact ⟨[], rfl⟩
  | _ => exact ⟨[], rfl⟩

theorem listed_of_line {cs : List Char} {f : Field} (h : fieldOfLine cs = .ok (some f)) :
    Listed f := by
  cases described_of_line h with
  | consent statement same => exact same ▸ ⟨[_], rfl⟩
  | common _ asked => exact listed_commonQuestion asked
  | @labelled label a _ _ same =>
      subst same
      simp only [fieldWith]
      split
      · exact listed_fieldOf _ label a
      · rename_i question _ found
        have asked : Listed question := listed_commonQuestion found
        exact asked
      · exact listed_fieldOf _ label a

/-- The option to specify is one that is offered. -/
theorem mem_offered_of_otherOption? {f : Field} (listed : Listed f) {other : String}
    (h : Builder.otherOption? f = some other) : other ∈ f.offered := by
  obtain ⟨texts, options⟩ := listed
  have begins := List.find?_some h
  obtain ⟨v, hv, text⟩ := List.mem_map.mp (List.mem_of_find?_eq_some h)
  obtain ⟨s, hs, rfl⟩ := List.mem_map.mp (options ▸ hv)
  have filled : other.isEmpty = false := by
    refine Bool.eq_false_iff.mpr fun empty => ?_
    rw [String.isEmpty_iff.mp empty] at begins
    exact absurd begins (by decide)
  have shown : trimmed? s = some other := by
    simp only [Builder.optionText, Json.usableText] at text
    split at text
    · subst text
      exact if_neg (ne_true_of_eq_false filled)
    · subst text
      cases filled
  refine List.mem_map.mpr ⟨Choice.plain other, ?_, rfl⟩
  refine List.mem_filterMap.mpr ⟨.text s, hv, ?_⟩
  rw [Choice.ofJson?, shown]
  rfl

/-! ## Fields that depend on a choice -/

/-- Why a field depends on an answer to a choice: it says so, or it asks to specify an answer that
is offered. -/
def Asks (source : Field) (answer : String) (f : Field) : Prop :=
  Builder.beginsWith "if yes" f.label = true ∧ answer = "Yes" ∨
    f = Builder.specifyField source answer ∧ answer ∈ source.offered

/-- A field that comes after others depends, if at all, on the last choice among them, for a
reason. -/
def AsksLast (before : List Field) (f : Field) : Prop :=
  ∀ expr, f.showIf = some expr → ∃ source answer, lastChoice? before = some source ∧
    Asks source answer f ∧ expr = Builder.answered source.label answer

namespace Builder

variable {b : Builder} {f : Field}

theorem options_dependent (b : Builder) (f : Field) : (b.dependent f).options = f.options := by
  simp only [dependent]
  split
  · split <;> rfl
  · rfl

theorem asksLast_dependent (h : b.Sound) (free : f.showIf = none) :
    AsksLast b.fields (b.dependent f) := by
  intro expr written
  cases last : b.lastChoice with
  | none =>
      simp only [dependent, last, free] at written
      cases written
  | some choice =>
      simp only [dependent, last] at written ⊢
      split at written
      · rename_i begins
        rw [if_pos begins]
        cases written
        refine ⟨choice, "Yes", by rw [← h.last, last], .inl ⟨?_, rfl⟩, rfl⟩
        exact (Bool.and_eq_true_iff.mp begins).1
      · rw [free] at written
        cases written

theorem asksLast_withFollowUp {fields : List Field} (h : Each AsksLast fields)
    (own : AsksLast fields f) (listed : Listed f) :
    Each AsksLast (fields ++ withFollowUp f) := by
  simp only [withFollowUp]
  split
  · rename_i boxes
    cases found : otherOption? f with
    | none => exact h.concat own
    | some other =>
        have choice : f.isChoice = true := by
          rw [Field.isChoice, boxes]
          rfl
        have regroup : fields ++ f :: ((some other).map (specifyField f)).toList =
            fields ++ [f] ++ [specifyField f other] := by simp
        rw [regroup]
        refine (h.concat own).concat fun expr written => ?_
        cases written
        refine ⟨f, other, by rw [lastChoice?_concat, choice, if_pos rfl], .inr ⟨rfl, ?_⟩, rfl⟩
        exact mem_offered_of_otherOption? listed found
  · exact h.concat own

end Builder

theorem Document.asksLast_of_parse {d : Document} {prompt : String} (h : parse prompt = .ok d) :
    Each AsksLast d.fields := by
  refine fields_induction Each.nil (fun b cs f sound read holds => ?_) h
  refine Builder.asksLast_withFollowUp holds
    (Builder.asksLast_dependent sound (asked_of_line read).free) ?_
  rw [Listed, Builder.options_dependent]
  exact listed_of_line read

/-! ## Conditions that can hold -/

theorem last_unique {α : Type} {p : α → Prop} {before before' after after' : List α} {x x' : α}
    (same : before ++ x :: after = before' ++ x' :: after') (hx : p x) (hx' : p x')
    (last : ∀ y ∈ after, ¬ p y) (last' : ∀ y ∈ after', ¬ p y) : x = x' := by
  rcases List.append_eq_append_iff.mp same with ⟨more, front, back⟩ | ⟨more, front, back⟩
  · rcases List.cons_eq_append_iff.mp back with ⟨_, here⟩ | ⟨rest, _, later⟩
    · exact (List.cons.inj here).1.symm
    · exact absurd hx' (last x' (by rw [later]; simp))
  · rcases List.cons_eq_append_iff.mp back with ⟨_, here⟩ | ⟨rest, _, later⟩
    · exact (List.cons.inj here).1
    · exact absurd hx (last' x (by rw [later]; simp))

namespace Link

variable {d : Document} {prompt : String} {form : Form}

/-- The condition asks for an answer that its question offers, if it offers any. -/
def Meetable {fields : List Field} (l : Link d fields) : Prop :=
  l.source.options ≠ [] → l.answer ∈ l.source.offered

theorem answered_injective {label answer answer' : String}
    (h : Builder.answered label answer = Builder.answered label answer') : answer = answer' := by
  simpa [Builder.answered, ← String.toList_inj] using h

/-- A condition of the form is there for a reason. -/
theorem asks (parsed : Document.parse prompt = .ok d) (h : d.form? prompt = some form)
    (l : Link d form.fields) : Asks l.source l.answer l.dependent := by
  obtain ⟨front, back, same, found⟩ := Document.exists_front h l.split l.own
  obtain ⟨source, answer, last, asks, text⟩ :=
    Document.asksLast_of_parse parsed front l.dependent back same _ l.written
  obtain ⟨first, middle, split, own_source, choice, plain⟩ := found source last
  have here : l.source = source := by
    refine last_unique (p := fun g => g ∈ d.fields ∧ g.isChoice = true) split
      ⟨l.own_source, l.choice⟩ ⟨own_source, choice⟩ ?_ ?_
    · exact fun g hg other => Bool.false_ne_true ((l.last g hg other.1).symm.trans other.2)
    · exact fun g hg other => Bool.false_ne_true ((plain g hg other.1).symm.trans other.2)
  subst here
  obtain rfl := answered_injective text
  exact asks

end Link

namespace Document

variable {d : Document} {prompt : String} {form : Form}

/-- Every condition that the builder wrote asks for the answer yes because the field says so, or for
an answer to specify, which is offered. So a condition can hold unless it asks for the answer yes to
a question that has options without it. -/
theorem meetable_iff (parsed : parse prompt = .ok d) (h : d.form? prompt = some form) :
    (∀ before f after, form.fields = before ++ f :: after → f ∈ d.fields →
      f.showIf.isSome = true → ∃ l : Link d form.fields,
        l.before ++ l.source :: l.middle = before ∧ l.dependent = f ∧ l.after = after) ∧
    ∀ l : Link d form.fields, Asks l.source l.answer l.dependent ∧
      (l.Meetable ↔
        (l.answer = "Yes" → l.source.options ≠ [] → "Yes" ∈ l.source.offered)) := by
  refine ⟨fun before f after => exists_link (sound_parse parsed) h, fun l => ?_⟩
  have asks := l.asks parsed h
  refine ⟨asks, fun met yes => yes ▸ met, fun offers some_option => ?_⟩
  rcases asks with ⟨_, yes⟩ | ⟨_, offered⟩
  · rw [yes]
    exact offers yes some_option
  · exact offered

/-- The labels, the offers and the conditions of the fields of an outline that are in its form. -/
def offers? (prompt : String) : Option (List (String × List String × Option String)) := do
  let d ← (parse prompt).toOption
  let form ← d.form? prompt
  if form.fields.map Field.label = d.fields.map Field.label then
    some (form.fields.map fun f => (f.label, f.offered, f.showIf))
  else none

theorem offers?_eq_some {entries : List (String × List String × Option String)}
    (h : offers? prompt = some entries) : ∃ d form, parse prompt = .ok d ∧
      d.form? prompt = some form ∧ form.fields.map Field.label = d.fields.map Field.label ∧
      (form.fields.map fun f => (f.label, f.offered, f.showIf)) = entries := by
  simp only [offers?] at h
  cases parsed : parse prompt with
  | error e => simp [parsed, Except.toOption] at h
  | ok d =>
      cases made : d.form? prompt with
      | none => simp [parsed, made, Except.toOption] at h
      | some form =>
          simp only [parsed, made, Except.toOption, Option.bind_eq_bind, Option.bind_some] at h
          split at h
          · rename_i same
            exact ⟨d, form, rfl, made, same, Option.some.inj h⟩
          · cases h

/-- An outline of a question and another one that depends on it. -/
def carOutline (options : String) : String :=
  "Section: A\n- Car (" ++ options ++ ")\n- If yes, how many seats? (number)"

/-- The link of an outline of two fields is between them. -/
theorem exists_link_of_two {label : String} {offered : List String} {dependent expr : String}
    (h : offers? prompt = some [(label, offered, none), (dependent, [], some expr)]) :
    ∃ d form, parse prompt = .ok d ∧ d.form? prompt = some form ∧
      ∃ l : Link d form.fields, l.source.label = label ∧ l.source.offered = offered ∧
        l.condition = expr := by
  obtain ⟨d, form, parsed, made, labels, entries⟩ := offers?_eq_some h
  obtain ⟨first, rest, fields, at_first, others⟩ := List.map_eq_cons_iff.mp entries
  obtain ⟨second, none_left, rfl, at_second, last⟩ := List.map_eq_cons_iff.mp others
  rw [List.map_eq_nil_iff] at last
  subst last
  simp only [Prod.mk.injEq] at at_first at_second
  have own : second ∈ d.fields := by
    refine mem_fields_of_label made (by simp [fields]) ?_
    rw [← labels, fields]
    simp
  have split : form.fields = [first] ++ second :: [] := fields
  obtain ⟨l, before, rfl, _⟩ := exists_link (sound_parse parsed) made split own
    (by rw [at_second.2.2]; rfl)
  have source : l.source = first := by
    have listed : l.source ∈ [first] := by
      rw [← before]
      simp
    exact List.mem_singleton.mp listed
  have condition := l.written.symm.trans at_second.2.2
  exact ⟨d, form, parsed, made, l, source ▸ at_first.1, source ▸ at_first.2.1,
    Option.some.inj condition⟩

theorem meetable_carOutline : ∃ d form, parse (carOutline "yes/no") = .ok d ∧
    d.form? (carOutline "yes/no") = some form ∧
    ∃ l : Link d form.fields, l.condition = "Car = Yes" ∧ l.Meetable := by
  obtain ⟨d, form, parsed, made, l, _, offered, condition⟩ := exists_link_of_two
    (show offers? (carOutline "yes/no") = some [("Car", ["Yes", "No"], none),
      ("If yes, how many seats?", [], some "Car = Yes")] by decide +kernel)
  refine ⟨d, form, parsed, made, l, condition, ?_⟩
  refine ((meetable_iff parsed made).2 l).2.mpr fun _ _ => ?_
  rw [offered]
  exact List.mem_cons_self

/-- A question with an option `yes` does not offer the answer that is asked for. -/
theorem not_meetable_carOutline : ∃ d form, parse (carOutline "radio: yes, no") = .ok d ∧
    d.form? (carOutline "radio: yes, no") = some form ∧
    ∃ l : Link d form.fields, l.condition = "Car = Yes" ∧ ¬ l.Meetable := by
  obtain ⟨d, form, parsed, made, l, label, offered, condition⟩ := exists_link_of_two
    (show offers? (carOutline "radio: yes, no") = some [("Car", ["yes", "no"], none),
      ("If yes, how many seats?", [], some "Car = Yes")] by decide +kernel)
  have answer : l.answer = "Yes" := by
    rw [Link.condition, label] at condition
    have same : Builder.answered "Car" l.answer = Builder.answered "Car" "Yes" := condition
    exact Link.answered_injective same
  have some_option : l.source.options ≠ [] := by
    intro none_left
    rw [Field.offered, none_left] at offered
    cases offered
  refine ⟨d, form, parsed, made, l, condition, fun met => ?_⟩
  have among := met some_option
  rw [answer, offered] at among
  exact absurd among (by decide)

end Document

end Outline

end PromptForm
