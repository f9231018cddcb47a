import PromptForm.Proofs.Lowering.Choice
import PromptForm.Proofs.Oracle.Agreement

/-! # Options of a definition

An item of a choice kind is left out if it lists no options at all. One with options becomes a field
with just these options, even when there is nothing to show of any of them. Nothing can be picked
then, and fields of most kinds are lowered to an input of text.
-/

namespace PromptForm

open Entries

namespace Definition

/-! ## Fields of items -/

/-- The entries of the field for an item of a choice kind. -/
def pickEntries (kind : Kind) (label : String) (required : Bool)
    (description showIf : Option String) (options : List Json) : Entries :=
  withoutNulls [("type", .text kind.name), ("label", .text label), ("required", .bool required),
    ("description", .ofText? description), ("showIf", .ofText? showIf), ("options", .array options)]

/-- Such entries always pass the check of fields. -/
theorem check_pickEntries (kind : Kind) (label : String) (required : Bool)
    (description showIf : Option String) (options : List Json) :
    ∃ f, Field.check (.object (pickEntries kind label required description showIf options)) =
      .ok f ∧ f.kind? = some kind ∧ f.options = options := by
  let entries := Coercion.entries (pickEntries kind label required description showIf options)
  let f : Field := { Field.plain kind (trimmed label) with
    required, description, options, showIf, given := Field.givenBy entries }
  have held : ∀ a, Attribute.held? entries a = some (f.get a) := by
    cases description <;> cases showIf
    all_goals
      intro a
      cases a
      case type => exact congrArg (fun s => some (Json.text s)) kind.nameOf_name
      case options =>
        exact congrArg (fun c : Checked (List Json) => c.value?.map Json.array)
          (Checked.items_any options)
      all_goals rfl
  refine ⟨f, Field.check_eq_ok.mpr ⟨_, rfl, ?_, Field.ofEntries_eq_ok.mpr ⟨held, ?_, rfl⟩⟩,
    kind.ofName?_name, rfl⟩
  · cases description <;> cases showIf <;> rfl
  · cases description <;> cases showIf <;> rfl

/-- The members of every item begin with those that all items have. -/
theorem members?_common {item : Entries} {kind : Kind} {level : Option Int}
    {members : List (String × Json)} (h : members? item kind level = some members) :
    ∃ label more, members = withoutNulls (commonMembers item kind label) ++ more := by
  refine ⟨(cleanText? (get? item "label")).getD "", ?_⟩
  unfold members? at h
  cases kind
  all_goals
    simp only at h
    try split at h
    all_goals
      cases h
      try exact ⟨_, rfl⟩
      try exact ⟨[], (List.append_nil _).symm⟩

/-- The label of an item, which is empty when it has none. -/
def labelOf (item : Entries) : String := (cleanText? (get? item "label")).getD ""

theorem members?_of_choice {kind : Kind} (choice : kind.isChoice = true) (item : Entries)
    (level : Option Int) (members : List (String × Json)) :
    members? item kind level = some members ↔
      ∃ options, first item ["options", "choices"] = .array options ∧ options ≠ [] ∧
        withoutNulls (commonMembers item kind (labelOf item)) ++ [("options", .array options)] =
          members := by
  -- Five kinds are left, which read their options in one branch.
  cases kind <;> cases choice
  all_goals
    simp only [members?]
    cases first item ["options", "choices"] with
    | array options => cases options <;> simp [labelOf, withoutNulls]
    | null | bool | int | double | text | object => simp

theorem pickEntries_of_common {kind : Kind} (choice : kind.isChoice = true) (item : Entries)
    (label : String) (options : List Json) : ∃ required description showIf,
      withoutNulls (withoutNulls (commonMembers item kind label) ++ [("options", .array options)]) =
        pickEntries kind label required description showIf options := by
  have plain : hasPlaceholder kind = false := by cases kind <;> first | rfl | cases choice
  simp only [commonMembers, plain, Bool.false_eq_true, if_false]
  generalize cleanText? (get? item "description") = description
  generalize cleanText? (firstPresent? item ["showIf", "show_if"]) = showIf
  have same (required : Bool) : withoutNulls (withoutNulls [("type", .text kind.name),
      ("label", .text label), ("required", .bool required), ("description", .ofText? description),
      ("showIf", .ofText? showIf), ("placeholder", .null)] ++ [("options", .array options)]) =
        pickEntries kind label required description showIf options := by
    cases description <;> cases showIf <;> rfl
  exact ⟨_, _, _, same _⟩

/-- An item that asks to pick from a list of options. -/
structure Picks (item : Entries) (kind : Kind) (options : List Json) : Prop where
  untitled : titleTypes.contains (typeSlug item) = false
  known : ∃ level, kindOf? item = some (kind, level)
  choice : kind.isChoice = true
  listed : first item ["options", "choices"] = .array options
  filled : options ≠ []

/-- An item that asks to pick becomes a field of its kind with its options. -/
theorem Picks.fieldOf? {item : Entries} {kind : Kind} {options : List Json}
    (h : Picks item kind options) :
    ∃ f, fieldOf? item = .ok (some f) ∧ f.kind? = some kind ∧ f.options = options := by
  obtain ⟨level, known⟩ := h.known
  obtain ⟨required, description, showIf, entries⟩ :=
    pickEntries_of_common h.choice item (labelOf item) options
  obtain ⟨f, passed, rest⟩ :=
    check_pickEntries kind (labelOf item) required description showIf options
  have members := (members?_of_choice h.choice item level _).mpr ⟨options, h.listed, h.filled, rfl⟩
  refine ⟨f, ?_, rest⟩
  simp only [Definition.fieldOf?, known, members, entries, passed]

theorem members?_type {item : Entries} {kind : Kind} {level : Option Int}
    {members : List (String × Json)} (h : members? item kind level = some members) :
    get? (withoutNulls members) "type" = some (.text kind.name) := by
  obtain ⟨label, more, rfl⟩ := members?_common h
  rfl

/-- The fields of choice kinds are those of items that ask to pick. -/
theorem picks_of_fieldOf? {item : Entries} {f : Field} {kind : Kind}
    (untitled : titleTypes.contains (typeSlug item) = false) (made : fieldOf? item = .ok (some f))
    (known : f.kind? = some kind) (choice : kind.isChoice = true) : Picks item kind f.options := by
  obtain ⟨kind', level, members, typed, found, passed⟩ := fieldOf?_eq_some.mp made
  cases (Field.kind?_of_check (members?_type found) f passed).symm.trans known
  obtain ⟨options, listed, filled, -⟩ := (members?_of_choice choice item level _).mp found
  have picks : Picks item kind options := ⟨untitled, ⟨level, typed⟩, choice, listed, filled⟩
  obtain ⟨g, again, -, same⟩ := picks.fieldOf?
  cases again.symm.trans made
  exact same ▸ picks

/-! ## Forms of definitions -/

/-- What holds of all fields of choice kinds is what holds of all items that ask to pick. -/
theorem forall_choices_iff {prompt : String} {form : Form}
    (h : formOfPrompt? prompt = .ok (some form)) : ∃ definition, Defines prompt definition ∧
      (∀ f ∈ form.fields, trimmed f.label = f.label) ∧ ∀ P : Kind → List Json → Prop,
      (∀ f ∈ form.fields, ∀ kind, f.kind? = some kind → kind.isChoice = true → P kind f.options) ↔
        ∀ item kind options, .object item ∈ itemsOf definition → Picks item kind options →
          P kind options := by
  obtain ⟨definition, items, defines, added, -, fields⟩ := items_of_formOfPrompt? h
  have member (f : Field) : f ∈ form.fields ↔ ∃ item, Json.object item ∈ itemsOf definition ∧
      titleTypes.contains (typeSlug item) = false ∧ fieldOf? item = .ok (some f) := by
    rw [fields, mem_addAll added]
    simp only [List.not_mem_nil, false_or]
  refine ⟨definition, defines, fun f hf => ?_, fun P =>
    ⟨fun each item kind options listed picks => ?_, fun each f hf kind known choice => ?_⟩⟩
  · obtain ⟨item, -, -, made⟩ := (member f).mp hf
    obtain ⟨_, _, _, -, -, passed⟩ := fieldOf?_eq_some.mp made
    exact Field.label_tight passed
  · obtain ⟨f, made, known, rfl⟩ := picks.fieldOf?
    exact each f ((member f).mpr ⟨item, listed, picks.untitled, made⟩) kind known picks.choice
  · obtain ⟨item, listed, untitled, made⟩ := (member f).mp hf
    exact each item kind _ listed (picks_of_fieldOf? untitled made known choice)

/-- Every choice of a form that a prompt defines lists options. They can be picked, or at least the
question is no input of text, just if every item that asks to pick has something to show. -/
theorem answerable_iff {prompt : String} {form : Form}
    (h : formOfPrompt? prompt = .ok (some form)) : ∃ definition, Defines prompt definition ∧
      (∀ f ∈ form.fields, f.isChoice = true → f.options ≠ []) ∧
      ((∀ f ∈ form.fields, f.isChoice = true → Choice.normalize (.array f.options) ≠ []) ↔
        ∀ item kind options, .object item ∈ itemsOf definition → Picks item kind options →
          ∃ v ∈ options, Choice.isUsable v = true) ∧
      ((∀ f ∈ form.fields, ¬ f.Degrades) ↔
        ∀ item kind options, .object item ∈ itemsOf definition → Picks item kind options →
          kind = .countrySelect ∨ kind = .consentCheckbox ∨
            ∃ v ∈ options, Choice.isUsable v = true) := by
  obtain ⟨definition, defines, tight, all_iff⟩ := forall_choices_iff h
  refine ⟨definition, defines, ?_, ?_, ?_⟩
  · intro f hf choice
    obtain ⟨kind, known, choice⟩ := Field.isChoice_iff.mp choice
    have filled := (all_iff fun _ options => options ≠ []).mpr fun _ _ _ _ picks => picks.filled
    exact filled f hf kind known choice
  · rw [← all_iff fun _ options => ∃ v ∈ options, Choice.isUsable v = true]
    simp only [Field.isChoice_iff, ne_eq, Choice.normalize_eq_nil, not_not, forall_exists_index,
      and_imp]
  · rw [← all_iff fun kind options => kind = .countrySelect ∨ kind = .consentCheckbox ∨
      ∃ v ∈ options, Choice.isUsable v = true]
    have degrades {f : Field} {kind : Kind} (hf : f ∈ form.fields) (known : f.kind? = some kind)
        (choice : kind.isChoice = true) : ¬ f.Degrades ↔ kind = .countrySelect ∨
          kind = .consentCheckbox ∨ ∃ v ∈ f.options, Choice.isUsable v = true := by
      rw [Field.degrades_iff (tight f hf) known choice, Field.offer_eq_nil, Choice.normalize_eq_nil]
      simp only [not_and_or, not_not, ne_eq]
    constructor
    · exact fun each f hf kind known choice => (degrades hf known choice).mp (each f hf)
    · intro each f hf degraded
      obtain ⟨kind, known, choice⟩ := Field.isChoice_iff.mp degraded.1
      exact (degrades hf known choice).mpr (each f hf kind known choice) degraded

/-! ## The options of a size -/

theorem Defines.unique {prompt : String} {definition other : Entries}
    (h : Defines prompt definition) (h' : Defines prompt other) : definition = other := by
  obtain ⟨text, found, read⟩ := h
  obtain ⟨text', found', read'⟩ := h'
  cases found.symm.trans found'
  cases read.symm.trans read'
  rfl

/-- A question for a size, and one for a name. -/
def askSize (options : List Json) : Entries := [("fields", .array [
  .object [("type", .text "select"), ("label", .text "Size"), ("options", .array options)],
  .object [("type", .text "text"), ("label", .text "Name")]])]

/-- A prompt with these questions. -/
def sizePrompt (options : List Json) : String := (Json.object (askSize options)).compact

theorem defines_sizePrompt :
    Defines (sizePrompt [.text "S", .text ""]) (askSize [.text "S", .text ""]) :=
  ⟨(sizePrompt [.text "S", .text ""]).toList, by decide +kernel, by cbv⟩

theorem defines_sizePrompt_blank : Defines (sizePrompt [.text ""]) (askSize [.text ""]) :=
  ⟨(sizePrompt [.text ""]).toList, by decide +kernel, by cbv⟩

/-- A size can be picked if one of the options is not blank. -/
theorem answerable_sizePrompt : ∃ form, formOfPrompt? (sizePrompt [.text "S", .text ""]) =
      .ok (some form) ∧
    ∀ f ∈ form.fields, f.isChoice = true → Choice.normalize (.array f.options) ≠ [] := by
  have made : formOfPrompt? (sizePrompt [.text "S", .text ""]) = .ok (some _) :=
    defines_sizePrompt.formOfPrompt?_eq.trans rfl
  obtain ⟨definition, defines, -, answerable, -⟩ := answerable_iff made
  cases defines_sizePrompt.unique defines
  refine ⟨_, made, answerable.mpr fun item kind options listed picks => ?_⟩
  obtain ⟨level, known⟩ := picks.known
  have choice := picks.choice
  have given := picks.listed
  rcases List.mem_cons.mp listed with size | other
  · cases size
    cases given
    exact ⟨.text "S", List.mem_cons_self, by decide⟩
  · cases List.mem_singleton.mp other
    cases known
    cases choice

/-- A size cannot be picked if the only option is blank: an input of text asks for it. -/
theorem not_answerable_blank : ∃ form f, formOfPrompt? (sizePrompt [.text ""]) = .ok (some form) ∧
    f ∈ form.fields ∧ f.isChoice = true ∧ Choice.normalize (.array f.options) = [] ∧
    f.Degrades := by
  have made : formOfPrompt? (sizePrompt [.text ""]) = .ok (some _) :=
    defines_sizePrompt_blank.formOfPrompt?_eq.trans rfl
  have degrades := Field.degrades_iff (f := { Field.plain .dropdown "Size" with
    options := [.text ""], given := [.type, .label, .required, .options] }) (by decide) rfl rfl
  exact ⟨_, _, made, List.mem_cons_self, rfl, rfl, degrades.mpr rfl⟩

end Definition

end PromptForm
