import Mathlib.Data.List.Forall2
import PromptForm.Field.Basic
import PromptForm.Proofs.Schema.Checked
import PromptForm.Proofs.Text.Blank

/-! # What the attributes of a field hold

A field that passed its check holds, under every attribute, what the check of the attribute makes of
its value in form, or a default. Entries pass when all their attributes do, and the field is the one
with these values.
-/

namespace PromptForm

namespace Checked

variable {α β : Type}

def value? : Checked α → Option α
  | ok a => some a
  | _ => none

@[simp] theorem value?_eq_some {a : Checked α} {x : α} : a.value? = some x ↔ a = .ok x := by
  cases a <;> simp [value?]

@[simp] theorem under_eq_ok {step : PathStep} {a : Checked α} {x : α} :
    under step a = .ok x ↔ a = .ok x := by
  cases a <;> simp [under]

theorem combine_eq_ok {f : Checked (α → β)} {a : Checked α} {y : β} :
    combine f a = .ok y ↔ ∃ g x, f = .ok g ∧ a = .ok x ∧ y = g x := by
  cases f <;> cases a <;> simp [combine, eq_comm]

theorem map_eq_ok {f : α → β} {a : Checked α} {y : β} :
    map f a = .ok y ↔ ∃ x, a = .ok x ∧ f x = y := by
  cases a <;> simp [map]

/-- A list passes when its items do. -/
theorem items_eq_ok {check : α → Checked β} {as : List α} {bs : List β} :
    items check as = .ok bs ↔ List.Forall₂ (fun a b => check a = .ok b) as bs := by
  suffices ∀ i, itemsFrom check i as = .ok bs ↔ List.Forall₂ (fun a b => check a = .ok b) as bs from
    this 0
  induction as generalizing bs with
  | nil => cases bs <;> simp [itemsFrom]
  | cons a rest ih =>
      intro i
      rw [itemsFrom, combine_eq_ok, List.forall₂_cons_left_iff]
      simp only [map_eq_ok, under_eq_ok, ih]
      constructor
      · rintro ⟨_, bs, ⟨b, first, rfl⟩, others, rfl⟩
        exact ⟨b, bs, first, others, rfl⟩
      · rintro ⟨b, bs, first, others, rfl⟩
        exact ⟨_, bs, ⟨b, first, rfl⟩, others, rfl⟩

theorem items_any (items : List Json) : Checked.items Check.any items = .ok items :=
  items_eq_ok.mpr (List.forall₂_same.mpr fun _ _ => rfl)

theorem items_text {items : List Json} {ss : List String} :
    Checked.items Check.text items = .ok ss ↔ items = ss.map .text := by
  have text (v : Json) (s : String) : Check.text v = .ok s ↔ v = .text s := by
    cases v <;> simp [Check.text, refuse]
  simp only [items_eq_ok, text]
  rw [← List.forall₂_map_right_iff, List.forall₂_eq_eq_eq]

theorem seq_ok {f : Checked (α → β)} {a : Checked α} {g : α → β} {x : α} (hf : f = .ok g)
    (ha : a = .ok x) : f <*> a = .ok (g x) := by
  subst hf ha
  rfl

end Checked

/-- What an attribute holds that is given a value in form, if the value passes its check. -/
def AttributeForm.taken? (form : AttributeForm) (v : Json) : Option Json :=
  match form with
  | .kind => some (.text (Kind.nameOf v))
  | .label => (Check.text v).value?.map fun s => .text (trimmed s)
  | .looseFlag => (Check.flag v).value?.map .bool
  | .flag => (Check.nullable Check.flag v).value?.map .ofBool?
  | .text => (Check.nullable Check.text v).value?.map .ofText?
  | .number => (Check.nullable Check.number v).value?.map .ofNumber?
  | .whole => (Check.nullable Check.whole v).value?.map .ofInt?
  | .list => (Check.list Check.any v).value?.map .array
  | .texts => (Check.list Check.text v).value?.map .ofTexts

open Entries

/-- What an attribute of checked entries holds. -/
def Attribute.held? (entries : Entries) (a : Attribute) : Option Json :=
  match member? entries a.key with
  | some (_, v) => a.form.taken? v
  | none => some (RawField.default a)

namespace Json

theorem ofBool?_injective : Function.Injective ofBool? := by
  rintro (_ | b) (_ | c) same <;> cases same <;> rfl

theorem ofText?_injective : Function.Injective ofText? := by
  rintro (_ | s) (_ | t) same <;> cases same <;> rfl

theorem ofInt?_injective : Function.Injective ofInt? := by
  rintro (_ | n) (_ | m) same <;> cases same <;> rfl

theorem ofNumber?_injective : Function.Injective ofNumber? := by
  rintro (_ | _ | _) (_ | _ | _) same <;> cases same <;> rfl

theorem text_injective : Function.Injective text := fun _ _ => text.inj

theorem ofTexts_injective : Function.Injective ofTexts := fun _ _ same =>
  text_injective.list_map (array.inj same)

end Json

namespace Attribute

section Parts

variable {entries : Entries} {a : Attribute}

/-- A part of the check of a field passes with a value when the attribute holds the value. -/
theorem optional_eq_ok {α : Type} {default x : α} {check : Json → Checked α} {encode : α → Json}
    (injective : Function.Injective encode)
    (taken : ∀ v, a.form.taken? v = (check v).value?.map encode)
    (missing : RawField.default a = encode default) :
    optional entries a.key default check = .ok x ↔ held? entries a = some (encode x) := by
  simp only [Entries.optional, held?]
  cases member? entries a.key with
  | none => simp [missing, injective.eq_iff]
  | some entry => simp [taken, injective.eq_iff]

theorem type_eq_ok {x : String} :
    optional entries type.key Kind.text.name (fun v => .ok (Kind.nameOf v)) = .ok x ↔
      held? entries .type = some (.text x) :=
  optional_eq_ok Json.text_injective (fun _ => rfl) rfl

theorem label_eq_ok {x : String} :
    optional entries label.key "" (fun v => (Check.text v).map trimmed) = .ok x ↔
      held? entries .label = some (.text x) := by
  refine optional_eq_ok Json.text_injective (fun v => ?_) rfl
  cases v <;> rfl

theorem required_eq_ok {x : Bool} :
    optional entries required.key false Check.flag = .ok x ↔
      held? entries .required = some (.bool x) :=
  optional_eq_ok (fun _ _ => Json.bool.inj) (fun _ => rfl) rfl

theorem flag_eq_ok {x : Option Bool} (form : a.form = .flag) :
    Field.maybe entries a Check.flag = .ok x ↔ held? entries a = some (.ofBool? x) := by
  refine optional_eq_ok Json.ofBool?_injective (fun _ => by rw [form]; rfl) ?_
  cases a <;> first | rfl | cases form

theorem text_eq_ok {x : Option String} (form : a.form = .text) :
    Field.maybe entries a Check.text = .ok x ↔ held? entries a = some (.ofText? x) := by
  refine optional_eq_ok Json.ofText?_injective (fun _ => by rw [form]; rfl) ?_
  cases a <;> first | rfl | cases form

theorem number_eq_ok {x : Option Number} (form : a.form = .number) :
    Field.maybe entries a Check.number = .ok x ↔ held? entries a = some (.ofNumber? x) := by
  refine optional_eq_ok Json.ofNumber?_injective (fun _ => by rw [form]; rfl) ?_
  cases a <;> first | rfl | cases form

theorem whole_eq_ok {x : Option Int} (form : a.form = .whole) :
    Field.maybe entries a Check.whole = .ok x ↔ held? entries a = some (.ofInt? x) := by
  refine optional_eq_ok Json.ofInt?_injective (fun _ => by rw [form]; rfl) ?_
  cases a <;> first | rfl | cases form

theorem list_eq_ok {x : List Json} (form : a.form = .list) :
    Field.listed entries a Check.any = .ok x ↔ held? entries a = some (.array x) := by
  refine optional_eq_ok (fun _ _ => Json.array.inj) (fun _ => by rw [form]; rfl) ?_
  cases a <;> first | rfl | cases form

theorem texts_eq_ok {x : List String} (form : a.form = .texts) :
    Field.listed entries a Check.text = .ok x ↔ held? entries a = some (.ofTexts x) := by
  refine optional_eq_ok Json.ofTexts_injective (fun _ => by rw [form]; rfl) ?_
  cases a <;> first | rfl | cases form

end Parts

end Attribute

namespace Field

open Attribute

/-- Entries in form pass the check of a field when all their attributes do. -/
theorem ofEntries_eq_ok {entries : Entries} {f : Field} :
    ofEntries entries = .ok f ↔
      (∀ a, held? entries a = some (f.get a)) ∧ f.extras = rest entries keys ∧
        f.given = givenBy entries := by
  constructor
  · have holds : (ofEntries entries).Promises fun f =>
        (∀ a, held? entries a = some (f.get a)) ∧ f.extras = rest entries keys ∧
          f.given = givenBy entries := by
      unfold ofEntries
      refine Checked.promises_seq_of (Q := (· = givenBy entries)) (Checked.promises_pure rfl) ?_
      refine Checked.promises_seq_of (Q := (· = rest entries keys)) (Checked.promises_pure rfl) ?_
      -- From the last attribute to the first.
      iterate 26
        first
          | refine Checked.promises_seq_of (fun _ => (text_eq_ok rfl).mp) ?_
          | refine Checked.promises_seq_of (fun _ => (number_eq_ok rfl).mp) ?_
          | refine Checked.promises_seq_of (fun _ => (whole_eq_ok rfl).mp) ?_
          | refine Checked.promises_seq_of (fun _ => (list_eq_ok rfl).mp) ?_
          | refine Checked.promises_seq_of (fun _ => (texts_eq_ok rfl).mp) ?_
          | refine Checked.promises_seq_of (fun _ => (flag_eq_ok rfl).mp) ?_
          | refine Checked.promises_seq_of (fun _ => required_eq_ok.mp) ?_
          | refine Checked.promises_seq_of (fun _ => label_eq_ok.mp) ?_
          | refine Checked.promises_seq_of (fun _ => type_eq_ok.mp) ?_
      refine Checked.promises_pure ?_
      intros
      exact ⟨fun a => by cases a <;> assumption, by assumption, by assumption⟩
    exact holds f
  · rintro ⟨holds, extras, given⟩
    cases f
    unfold ofEntries
    iterate 28 refine Checked.seq_ok ?_ ?_
    all_goals
      first
        | exact (text_eq_ok rfl).mpr (holds _)
        | exact (number_eq_ok rfl).mpr (holds _)
        | exact (whole_eq_ok rfl).mpr (holds _)
        | exact (list_eq_ok rfl).mpr (holds _)
        | exact (texts_eq_ok rfl).mpr (holds _)
        | exact (flag_eq_ok rfl).mpr (holds _)
        | exact required_eq_ok.mpr (holds _)
        | exact label_eq_ok.mpr (holds _)
        | exact type_eq_ok.mpr (holds _)
        | exact congrArg Checked.ok extras.symm
        | exact congrArg Checked.ok given.symm
        | rfl

/-- A field passes its check as an object without faulty numbers, whose entries are brought into
form first. -/
theorem check_eq_ok {v : Json} {f : Field} :
    check v = .ok f ↔ ∃ entries, v = .object entries ∧ Coercion.fault? entries = none ∧
      ofEntries (Coercion.entries entries) = .ok f := by
  cases v with
  | object entries =>
      simp only [check, Check.object, Json.object.injEq, exists_eq_left']
      cases Coercion.fault? entries with
      | none => simp
      | some e => cases e <;> simp [Checked.refuse]
  | null | bool | int | double | text | array => simp [check, Check.object, Checked.refuse]

/-- The label of a checked field has no white space around it. -/
theorem label_tight {v : Json} {f : Field} (checked : check v = .ok f) :
    trimmed f.label = f.label := by
  obtain ⟨entries, rfl, -, passed⟩ := check_eq_ok.mp checked
  have label : _ = some (Json.text f.label) := (ofEntries_eq_ok.mp passed).1 .label
  simp only [held?] at label
  split at label
  · obtain ⟨s, -, same⟩ := Option.map_eq_some_iff.mp label
    rw [← Json.text.inj same, trimmed_trimmed]
  · rw [← Json.text.inj (Option.some.inj label)]
    rfl

end Field

end PromptForm
