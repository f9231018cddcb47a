import PromptForm.Definition
import PromptForm.Proofs.Form.Checked

/-! # Forms of definitions

Every field of a definition passed the check of fields. A definition is read unless an item that
would be a field has an infinite number where a whole one is needed.
-/

namespace PromptForm

/-- Checking a field breaks off only at a whole number that is infinite. -/
theorem Field.check_overflow_iff (entries : Entries) :
    Field.check (.object entries) = .overflow ↔ Coercion.fault? entries = some .infinity := by
  have finishes : (Field.ofEntries (Coercion.entries entries)).Finishes := by
    unfold Field.ofEntries
    iterate 28 refine Checked.finishes_seq ?_ ?_
    · exact Checked.finishes_pure _
    all_goals
      first
        | exact Entries.finishes_maybe Check.finishes_text _ _
        | exact Entries.finishes_maybe Check.finishes_number _ _
        | exact Entries.finishes_maybe Check.finishes_whole _ _
        | exact Entries.finishes_maybe Check.finishes_flag _ _
        | exact Entries.finishes_optional Check.finishes_flag _ _ _
        | exact Entries.finishes_optional (Check.finishes_list Check.finishes_text) _ _ _
        | exact Entries.finishes_optional (Check.finishes_list Check.finishes_any) _ _ _
        | exact Entries.finishes_optional (fun v => Checked.finishes_pure (Kind.nameOf v)) _ _ _
        | exact Entries.finishes_optional (fun v => Checked.finishes_map (Check.finishes_text v)) _ _ _
        | exact Checked.finishes_pure _
  simp only [Field.check, Check.object]
  split
  · rename_i infinite
    simp [infinite]
  · rename_i nan
    simp [nan, Checked.refuse]
  · rename_i sane
    simp only [sane, reduceCtorEq, iff_false]
    exact finishes

namespace Definition

/-- An item that would be a field, with an infinite number where a whole one is needed. -/
def InfiniteItem (item : Entries) : Prop :=
  titleTypes.contains (typeSlug item) = false ∧ ∃ kind level members,
    kindOf? item = some (kind, level) ∧ members? item kind level = some members ∧
      Coercion.fault? (Entries.withoutNulls members) = some .infinity

theorem fieldOf?_error_iff (item : Entries) :
    (∃ e, fieldOf? item = .error e) ↔ ∃ kind level members,
      kindOf? item = some (kind, level) ∧ members? item kind level = some members ∧
        Coercion.fault? (Entries.withoutNulls members) = some .infinity := by
  simp only [fieldOf?, ← Field.check_overflow_iff]
  cases kindOf? item with
  | none => simp
  | some known =>
      obtain ⟨kind, level⟩ := known
      simp only [Option.some.injEq, Prod.mk.injEq]
      cases found : members? item kind level with
      | none => simp_all
      | some members =>
          cases checked : Field.check (.object (Entries.withoutNulls members)) <;> simp_all

/-- An item becomes a field when its members pass the check of fields. -/
theorem fieldOf?_eq_some {item : Entries} {f : Field} :
    fieldOf? item = .ok (some f) ↔ ∃ kind level members, kindOf? item = some (kind, level) ∧
      members? item kind level = some members ∧
        Field.check (.object (Entries.withoutNulls members)) = .ok f := by
  simp only [fieldOf?]
  cases kindOf? item with
  | none => simp
  | some known =>
      obtain ⟨kind, level⟩ := known
      simp only [Option.some.injEq, Prod.mk.injEq]
      cases found : members? item kind level with
      | none => simp_all
      | some members =>
          cases checked : Field.check (.object (Entries.withoutNulls members)) <;> simp_all

/-- The fields of a definition are those of its items that give it no title. -/
theorem mem_addAll {s s' : Items} {items : List Json} (h : s.addAll items = .ok s') {f : Field} :
    f ∈ s'.fields ↔ f ∈ s.fields ∨ ∃ item, Json.object item ∈ items ∧
      titleTypes.contains (typeSlug item) = false ∧ fieldOf? item = .ok (some f) := by
  induction items generalizing s with
  | nil =>
      cases h
      simp
  | cons v rest ih =>
      cases v with
      | object item =>
          simp only [List.mem_cons, Json.object.injEq, or_and_right, exists_or, exists_eq_left]
          simp only [Items.addAll] at h
          split at h
          · rename_i title
            simp only [ih h, title, Bool.true_eq_false, false_and, false_or]
          · rename_i plain
            split at h
            · cases h
            · rename_i field read
              simp only [ih h, List.mem_append, Option.mem_toList, or_assoc, read,
                eq_false_of_ne_true plain, true_and, Except.ok.injEq]
      | null | bool | int | double | text | array =>
          simp only [List.mem_cons, reduceCtorEq, false_or]
          exact ih h

theorem addAll_error_iff {s : Items} {items : List Json} :
    (∃ e, s.addAll items = .error e) ↔ ∃ item, Json.object item ∈ items ∧ InfiniteItem item := by
  induction items generalizing s with
  | nil => simp [Items.addAll]
  | cons v rest ih =>
      cases v with
      | object item =>
          simp only [Items.addAll, List.mem_cons, Json.object.injEq]
          cases title : titleTypes.contains (typeSlug item) with
          | true =>
              have plain : ¬ InfiniteItem item := fun h => by
                rw [h.1] at title
                cases title
              simp only [if_true, ih]
              constructor
              · rintro ⟨other, listed, infinite⟩
                exact ⟨other, .inr listed, infinite⟩
              · rintro ⟨other, rfl | listed, infinite⟩
                · exact absurd infinite plain
                · exact ⟨other, listed, infinite⟩
          | false =>
              simp only [Bool.false_eq_true, if_false]
              have broken : (∃ e, fieldOf? item = .error e) ↔ InfiniteItem item := by
                rw [fieldOf?_error_iff, InfiniteItem, title]
                simp only [true_and]
              cases read : fieldOf? item with
              | error e =>
                  simp only [Except.error.injEq, exists_eq', true_iff]
                  exact ⟨item, .inl rfl, broken.mp ⟨e, read⟩⟩
              | ok field =>
                  have plain : ¬ InfiniteItem item := fun h => by
                    obtain ⟨e, failed⟩ := broken.mpr h
                    rw [read] at failed
                    cases failed
                  simp only [ih]
                  constructor
                  · rintro ⟨other, listed, infinite⟩
                    exact ⟨other, .inr listed, infinite⟩
                  · rintro ⟨other, rfl | listed, infinite⟩
                    · exact absurd infinite plain
                    · exact ⟨other, listed, infinite⟩
      | null | bool | int | double | text | array =>
          simp only [Items.addAll, List.mem_cons, reduceCtorEq, false_or]
          exact ih

/-- A prompt that defines a form in JSON with too many levels, or with an infinite number where a
whole one is needed. -/
inductive Unreadable (prompt : String) : Prop
  | nested {text : List Char} {e : TooNested} : jsonText? prompt.toList = some text →
      Json.read? text = .error e → Unreadable prompt
  | infinite {text : List Char} {definition item : Entries} : jsonText? prompt.toList = some text →
      Json.read? text = .ok (some (.object definition)) → .object item ∈ itemsOf definition →
      InfiniteItem item → Unreadable prompt

theorem formOf?_error_iff (definition : Entries) :
    (∃ e, formOf? definition = .error e) ↔
      ∃ item, .object item ∈ itemsOf definition ∧ InfiniteItem item := by
  rw [← addAll_error_iff (s := ⟨cleanText? (Entries.get? definition "title"), []⟩)]
  simp only [formOf?]
  cases (⟨cleanText? (Entries.get? definition "title"), []⟩ : Items).addAll
    (itemsOf definition) with
  | error e => simp [bind, Except.bind]
  | ok items =>
      cases empty : items.fields.isEmpty <;>
        simp [bind, Except.bind, pure, Except.pure, empty]

/-- Nothing else keeps a prompt from being read as a definition or as none. -/
theorem formOfPrompt?_error_iff (prompt : String) :
    (∃ e, formOfPrompt? prompt = .error e) ↔ Unreadable prompt := by
  constructor
  · rintro ⟨e, failed⟩
    cases found : jsonText? prompt.toList with
    | none => simp [formOfPrompt?, found] at failed
    | some text =>
        cases read : Json.read? text with
        | error nested => exact .nested found read
        | ok v =>
            simp only [formOfPrompt?, found, read, mapError_ok, bind, Except.bind] at failed
            split at failed
            · obtain ⟨item, listed, infinite⟩ := (formOf?_error_iff _).mp ⟨e, failed⟩
              exact .infinite found read listed infinite
            · cases failed
  · rintro (⟨found, read⟩ | ⟨found, read, listed, infinite⟩)
    · simp [formOfPrompt?, found, read, bind, Except.bind]
    · simp only [formOfPrompt?, found, read, mapError_ok, bind, Except.bind]
      exact (formOf?_error_iff _).mpr ⟨_, listed, infinite⟩

/-- A prompt that reads as a definition. -/
def Defines (prompt : String) (definition : Entries) : Prop :=
  ∃ text, jsonText? prompt.toList = some text ∧ Json.read? text = .ok (some (.object definition))

/-- The form of a definition has the title and the fields that its items gave. -/
theorem items_of_formOfPrompt? {prompt : String} {form : Form}
    (h : formOfPrompt? prompt = .ok (some form)) : ∃ (definition : Entries) (items : Items),
      Defines prompt definition ∧ (⟨cleanText? (Entries.get? definition "title"), []⟩ :
        Items).addAll (itemsOf definition) = .ok items ∧
      form.title = items.title.getD Title.default ∧ form.fields = items.fields := by
  have each {definition : Entries} (h : formOf? definition = .ok (some form)) :
      ∃ items : Items, (⟨cleanText? (Entries.get? definition "title"), []⟩ : Items).addAll
        (itemsOf definition) = .ok items ∧ form.title = items.title.getD Title.default ∧
          form.fields = items.fields := by
    simp only [formOf?] at h
    cases added : (⟨cleanText? (Entries.get? definition "title"), []⟩ : Items).addAll
        (itemsOf definition) with
    | error e => simp [added, bind, Except.bind] at h
    | ok items =>
        simp only [added, bind, Except.bind] at h
        split at h
        · cases h
        · cases h
          exact ⟨items, rfl, rfl, by rw [Form.fields, List.flatMap_singleton]⟩
  cases found : jsonText? prompt.toList with
  | none => simp [formOfPrompt?, found] at h
  | some text =>
      cases read : Json.read? text with
      | error nested => simp [formOfPrompt?, found, read, bind, Except.bind] at h
      | ok v =>
          simp only [formOfPrompt?, found, read, mapError_ok, bind, Except.bind] at h
          split at h
          · obtain ⟨items, rest⟩ := each h
            exact ⟨_, items, ⟨text, found, read⟩, rest⟩
          · cases h

theorem titled_formOfPrompt? {prompt : String} {form : Form}
    (h : formOfPrompt? prompt = .ok (some form)) : ∀ f ∈ form.fields, f.Titled := by
  obtain ⟨definition, items, -, added, -, fields⟩ := items_of_formOfPrompt? h
  intro f hf
  rw [fields] at hf
  obtain ⟨item, -, -, made⟩ := ((mem_addAll added).mp hf).resolve_left List.not_mem_nil
  obtain ⟨kind, level, members, -, -, passed⟩ := fieldOf?_eq_some.mp made
  exact Field.check_titled _ f passed

end Definition

end PromptForm
