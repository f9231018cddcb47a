import PromptForm.Field.Basic
import PromptForm.Proofs.Field.Kind
import PromptForm.Proofs.Schema.Checked
import PromptForm.Proofs.Schema.Member

/-! # Fields of rebuilt entries

The entries of an item may be rebuilt before they are checked: nulls are left out, some texts are
trimmed, and whether an answer is needed is filled in. If the item itself passes the check, then its
rebuilt entries do. The two fields differ in the white space around some texts, in what counts as
given, and in extras that have the name of an attribute.
-/

namespace PromptForm

/-- A text as it was, or without the white space around it. It does not become blank that way. -/
inductive Trims : Option String → Option String → Prop
  | kept (s : Option String) : Trims s s
  | shortened {s : String} : trimmed? s = some (trimmed s) → Trims (some (trimmed s)) (some s)

theorem Trims.bind_trimmed? {s t : Option String} (h : Trims s t) :
    s.bind trimmed? = t.bind trimmed? := by
  cases h with
  | kept => rfl
  | shortened => rw [Option.bind_some, Option.bind_some, trimmed?_trimmed]

namespace Entries

/-- No attribute is null under its first spelling while it has a value under its second one. -/
def Unhidden (item : Entries) : Prop :=
  ∀ a : Attribute, get? item a.key.key = some .null → present? item a.key.second = none

theorem unhidden_of_full {item : Entries} (full : ∀ entry ∈ item, entry.2.isNull = false) :
    Unhidden item := by
  intro a null
  obtain ⟨entry, found, same⟩ := Option.map_eq_some_iff.mp null
  have shown := full entry (List.mem_of_find?_eq_some found)
  rw [same] at shown
  cases shown

/-- The text of a member is there without the white space around it. -/
def Trimmed (item entries : Entries) (m : MemberKey) : Prop :=
  ∃ name s, (name = m.key ∨ name = m.second) ∧ member? item m = some (name, .text s) ∧
    trimmed? s = some (trimmed s) ∧ get? entries m.key = some (.text (trimmed s))

end Entries

open Entries

namespace Attribute

/-- The attributes that are looked at when entries are rebuilt. -/
def rebuilt : List Attribute := [.type, .label, .required, .description, .showIf]

theorem mem_all (a : Attribute) : a ∈ all := by cases a <;> decide

theorem ne_of_ofName? {name : String} (free : ofName? name = none) (a : Attribute) :
    a.key.key ≠ name ∧ a.key.second ≠ name := by
  have unlike := List.find?_eq_none.mp free a a.mem_all
  simpa [not_or] using unlike

end Attribute

/-- Entries that were rebuilt from those of an item. -/
structure Entries.Rebuilt (item entries : Entries) : Prop where
  type : ∃ s, get? item "type" = some (.text s) ∧ get? entries "type" = some (.text s)
  label : ∃ s, get? item "label" = some (.text s) ∧ get? entries "label" = some (.text (trimmed s))
  required : ∃ b, (get? item "required").getD (.bool false) = .bool b ∧
    get? entries "required" = some (.bool b)
  description : get? entries "description" = present? item "description" ∨
    Trimmed item entries Attribute.description.key
  showIf : get? entries "showIf" = present? item "showIf" ∨
    Trimmed item entries Attribute.showIf.key
  /-- Nothing but nulls is lost of the other entries. -/
  other : ∀ key, (∀ a ∈ Attribute.rebuilt, a.key.key ≠ key) → get? entries key = present? item key

/-- A field like another one, but for the white space around two texts, for extras that have the name
of an attribute, and for what was given. Whether an answer is needed was given. -/
structure Field.Resembles (f g : Field) : Prop where
  same : f = { g with
    description := f.description
    showIf := f.showIf
    extras := f.extras
    given := f.given }
  description : Trims f.description g.description
  showIf : Trims f.showIf g.showIf
  extras : ∀ name, Attribute.ofName? name = none → present? f.extras name = present? g.extras name
  required : .required ∈ f.given

/-! ## Members of rebuilt entries -/

theorem Coercion.get?_entries (entries : Entries) (key : String) :
    get? (Coercion.entries entries) key = (get? entries key).map (value key) :=
  get?_map value entries key

theorem Coercion.member?_entries (entries : Entries) (m : MemberKey) :
    member? (Coercion.entries entries) m =
      (member? entries m).map fun entry => (entry.1, value entry.1 entry.2) := by
  simp only [member?_eq, get?_entries, Option.map_or, Option.map_map]
  rfl

theorem Entries.optional_coerced {α : Type} (entries : Entries) (m : MemberKey) (default : α)
    (check : Json → Checked α) : optional (Coercion.entries entries) m default check =
      match member? entries m with
      | some (name, v) => (check (Coercion.value name v)).under (.key name)
      | none => .ok default := by
  rw [optional, Coercion.member?_entries]
  cases member? entries m <;> rfl

namespace Entries.Rebuilt

variable {item entries : Entries}

/-- A member that has lost nothing but a null is checked alike, if a null counts as a member that is
not there. -/
theorem optional_eq {α : Type} {m : MemberKey} {default : α} {check : Json → Checked α}
    (first : get? entries m.key = present? item m.key)
    (second : get? entries m.second = present? item m.second)
    (unhidden : get? item m.key = some .null → present? item m.second = none)
    (null : ∀ name, name = m.key ∨ name = m.second →
      check (Coercion.value name .null) = .ok default) :
    optional (Coercion.entries entries) m default check =
      optional (Coercion.entries item) m default check := by
  rw [optional_coerced, optional_coerced, member?_eq, member?_eq, first, second]
  -- Only a null is a member of the item that is none of the rebuilt entries.
  cases at_first : get? item m.key with
  | none =>
      have skipped : present? item m.key = none := by simp only [present?, at_first]
      rw [skipped]
      cases at_second : get? item m.second with
      | none =>
          have missing : present? item m.second = none := by simp only [present?, at_second]
          rw [missing]
      | some v =>
          cases v with
          | null =>
              have missing : present? item m.second = none := by simp only [present?, at_second]
              simp only [missing, Option.map_none, Option.map_some, Option.none_or,
                null m.second (.inr rfl)]
              rfl
          | bool | int | double | text | array | object =>
              simp only [present?, at_second]
  | some v =>
      cases v with
      | null =>
          have skipped : present? item m.key = none := by simp only [present?, at_first]
          simp only [skipped, unhidden at_first, Option.map_none, Option.map_some, Option.none_or,
            Option.some_or, null m.key (.inl rfl)]
          rfl
      | bool | int | double | text | array | object => simp only [present?, at_first, Option.map_some,
          Option.some_or]

/-- A text that was kept, or trimmed, is taken as it is or without the white space around it. -/
theorem text_follows {m : MemberKey}
    (null : ∀ name, name = m.key ∨ name = m.second → Coercion.value name .null = .null)
    (texts : ∀ name, name = m.key ∨ name = m.second → ∀ s, Coercion.value name (.text s) = .text s)
    (unhidden : get? item m.key = some .null → present? item m.second = none)
    (h : get? entries m.key = present? item m.key ∧ get? entries m.second = present? item m.second ∨
      Trimmed item entries m) : Checked.Follows Trims
      (maybe (Coercion.entries entries) m Check.text)
      (maybe (Coercion.entries item) m Check.text) := by
  rcases h with ⟨first, second⟩ | ⟨name, s, named, found, trims, short⟩
  · have same : maybe (Coercion.entries entries) m Check.text =
        maybe (Coercion.entries item) m Check.text :=
      optional_eq first second unhidden fun name named => by rw [null name named]; rfl
    rw [same]
    exact Checked.follows_self .kept _
  · have short_found := member?_of_get? short
    intro t passed
    simp only [maybe, optional_coerced, found, texts name named] at passed
    cases passed
    refine ⟨some (trimmed s), ?_, .shortened trims⟩
    simp only [maybe, optional_coerced, short_found, texts m.key (.inl rfl)]
    rfl

theorem get?_other (h : Rebuilt item entries) {a : Attribute} (other : a ∉ Attribute.rebuilt) :
    get? entries a.key.key = present? item a.key.key ∧
      get? entries a.key.second = present? item a.key.second := by
  constructor
  · exact h.other _ (by revert other; cases a <;> decide)
  · exact h.other _ (by revert other; cases a <;> decide)

theorem attribute_eq (h : Rebuilt item entries) (unhidden : Unhidden item) {α : Type} {a : Attribute}
    {default : α} {check : Json → Checked α} (other : a ∉ Attribute.rebuilt)
    (null : ∀ name, name = a.key.key ∨ name = a.key.second →
      check (Coercion.value name .null) = .ok default) :
    optional (Coercion.entries entries) a.key default check =
      optional (Coercion.entries item) a.key default check :=
  optional_eq (h.get?_other other).1 (h.get?_other other).2 (unhidden a) null

theorem present?_free (h : Rebuilt item entries) {name : String}
    (free : Attribute.ofName? name = none) : present? entries name = present? item name := by
  have other := h.other name fun a _ => (Attribute.ne_of_ofName? free a).1
  rw [present?_eq, other, present?_eq]
  cases get? item name with
  | none => rfl
  | some v => cases v <;> rfl

theorem type_eq (h : Rebuilt item entries) {check : Json → Checked String} :
    optional (Coercion.entries entries) Attribute.type.key Kind.text.name check =
      optional (Coercion.entries item) Attribute.type.key Kind.text.name check := by
  obtain ⟨s, found, kept⟩ := h.type
  rw [optional_coerced, optional_coerced, member?_of_get? (m := Attribute.type.key) found,
    member?_of_get? (m := Attribute.type.key) kept]

theorem label_eq (h : Rebuilt item entries) :
    (optional (Coercion.entries entries) Attribute.label.key "" fun v =>
      (Check.text v).map trimmed) =
      optional (Coercion.entries item) Attribute.label.key "" fun v =>
        (Check.text v).map trimmed := by
  obtain ⟨s, found, kept⟩ := h.label
  have text (t : String) : Coercion.value Attribute.label.key.key (.text t) = .text t := rfl
  rw [optional_coerced, optional_coerced, member?_of_get? (m := Attribute.label.key) found,
    member?_of_get? (m := Attribute.label.key) kept]
  simp only [text, Check.text, Checked.map, trimmed_trimmed]

theorem required_eq (h : Rebuilt item entries) :
    optional (Coercion.entries entries) Attribute.required.key false Check.flag =
      optional (Coercion.entries item) Attribute.required.key false Check.flag := by
  obtain ⟨b, said, kept⟩ := h.required
  rw [optional_coerced, optional_coerced, member?_of_get? (m := Attribute.required.key) kept]
  cases found : get? item "required" with
  | none =>
      rw [found] at said
      cases said
      rw [Attribute.key, member?_plain, found]
      rfl
  | some v =>
      rw [found] at said
      obtain rfl : v = .bool b := said
      rw [member?_of_get? (m := Attribute.required.key) found]

theorem showIf_follows (h : Rebuilt item entries) (unhidden : Unhidden item) :
    Checked.Follows Trims (maybe (Coercion.entries entries) Attribute.showIf.key Check.text)
      (maybe (Coercion.entries item) Attribute.showIf.key Check.text) := by
  refine text_follows ?_ ?_ (unhidden .showIf)
    (h.showIf.imp_left fun kept => ⟨kept, h.other _ (by decide)⟩)
  · rintro _ (rfl | rfl) <;> rfl
  · rintro _ (rfl | rfl) _ <;> rfl

theorem description_follows (h : Rebuilt item entries) (unhidden : Unhidden item) :
    Checked.Follows Trims (maybe (Coercion.entries entries) Attribute.description.key Check.text)
      (maybe (Coercion.entries item) Attribute.description.key Check.text) := by
  refine text_follows ?_ ?_ (unhidden .description) (h.description.imp_left fun kept => ⟨kept, kept⟩)
  · rintro _ (rfl | rfl) <;> rfl
  · rintro _ (rfl | rfl) _ <;> rfl

/-- Nulls are no numbers, so leaving them out leaves no infinite one out. -/
theorem fault?_eq (h : Rebuilt item entries) : Coercion.fault? entries = Coercion.fault? item := by
  have same : ∀ name ∈ Coercion.wholeNames, get? entries name = present? item name := by
    intro name listed
    refine h.other name ?_
    revert name
    decide
  rw [Coercion.fault?, Coercion.fault?, ← List.head?_filterMap, ← List.head?_filterMap]
  refine congrArg List.head? (List.filterMap_congr fun name listed => ?_)
  rw [same name listed]
  cases found : get? item name with
  | none => simp only [present?, found]
  | some v =>
      cases v with
      | null =>
          simp only [present?, found]
          rfl
      | bool | int | double | text | array | object => simp only [present?, found]

end Entries.Rebuilt

namespace Field

variable {item entries : Entries}

theorem mem_givenBy {entries : Entries} {a : Attribute} :
    a ∈ givenBy entries ↔ (member? entries a.key).isSome = true := by
  rw [givenBy, List.mem_filter]
  exact and_iff_right a.mem_all

/-- What stands under a name that is no attribute's is an extra, whatever it is. -/
theorem present?_extras {name : String} (free : Attribute.ofName? name = none) (entries : Entries) :
    present? (rest (Coercion.entries entries) keys) name = present? entries name := by
  have other : ∀ m ∈ keys, name ≠ m.key ∧ name ≠ m.second := by
    intro m listed
    obtain ⟨a, _, rfl⟩ := List.mem_map.mp listed
    have unlike := Attribute.ne_of_ofName? free a
    exact ⟨unlike.1.symm, unlike.2.symm⟩
  have unchanged (v : Json) : Coercion.value name v = v := by
    simp only [Coercion.value, free, Option.map_none]
  simp only [present?, get?_rest other, Coercion.get?_entries]
  cases get? entries name with
  | none => rfl
  | some v => rw [Option.map_some, unchanged]

theorem ofEntries_follows (h : Rebuilt item entries) (unhidden : Unhidden item) :
    Checked.Follows
      (fun f g => f.Resembles g ∧ (.required ∈ g.given ↔ (get? item "required").isSome = true))
      (ofEntries (Coercion.entries entries)) (ofEntries (Coercion.entries item)) := by
  have given : Checked.Follows (fun x y => .required ∈ x ∧
      (.required ∈ y ↔ (get? item "required").isSome = true))
      (pure (givenBy (Coercion.entries entries))) (pure (givenBy (Coercion.entries item))) := by
    obtain ⟨b, _, kept⟩ := h.required
    refine Checked.follows_pure ⟨?_, ?_⟩
    · rw [mem_givenBy, Coercion.member?_entries, Option.isSome_map,
        member?_of_get? (m := Attribute.required.key) kept]
      rfl
    · rw [mem_givenBy, Coercion.member?_entries, Option.isSome_map, Attribute.key, member?_plain,
        Option.isSome_map]
  have extras : Checked.Follows (fun x y => ∀ name, Attribute.ofName? name = none →
      present? x name = present? y name) (pure (rest (Coercion.entries entries) keys))
      (pure (rest (Coercion.entries item) keys)) := by
    refine Checked.follows_pure fun name free => ?_
    rw [present?_extras free, present?_extras free]
    exact h.present?_free free
  -- From the last part to the first. Those that are not named are checked alike.
  unfold ofEntries
  refine Checked.follows_seq_of given ?_
  refine Checked.follows_seq_of extras ?_
  refine Checked.follows_seq_of (h.showIf_follows unhidden) ?_
  iterate 20 refine Checked.follows_seq ?_ ?_
  refine Checked.follows_seq_of (h.description_follows unhidden) ?_
  iterate 4 refine Checked.follows_seq ?_ ?_
  · refine Checked.follows_pure ?_
    intro type label required placeholder description description' trims
    intros
    rename_i showIf showIf' trims' extras extras' free given given' listed
    exact ⟨⟨rfl, trims, trims', free, listed.1⟩, listed.2⟩
  · exact h.type_eq
  · exact h.label_eq
  · exact h.required_eq
  all_goals exact h.attribute_eq unhidden (by decide) (by rintro _ (rfl | rfl) <;> rfl)

/-- Rebuilt entries pass the check whenever the item does. -/
theorem check_follows (h : Rebuilt item entries) (unhidden : Unhidden item) :
    Checked.Follows
      (fun f g => f.Resembles g ∧ (.required ∈ g.given ↔ (get? item "required").isSome = true))
      (check (.object entries)) (check (.object item)) := by
  intro g passed
  simp only [check, Check.object, h.fault?_eq] at passed ⊢
  cases fault : Coercion.fault? item with
  | none =>
      rw [fault] at passed
      exact ofEntries_follows h unhidden g passed
  | some e => cases e <;> simp [fault, Checked.refuse] at passed

/-- A field that passed the check is what was made of its entries. -/
theorem promises_check {P : Field → Prop} (h : (ofEntries (Coercion.entries item)).Promises P) :
    (check (.object item)).Promises P := by
  intro g passed
  simp only [check, Check.object] at passed
  split at passed
  · cases passed
  · cases passed
  · exact h g passed

/-- A field has the kind that its type names. -/
theorem kind?_of_check {kind : Kind} (given : get? item "type" = some (.text kind.name)) :
    (check (.object item)).Promises fun g => g.kind? = some kind := by
  refine promises_check ?_
  unfold ofEntries
  iterate 27 refine Checked.promises_seq ?_
  rw [optional_coerced, member?_of_get? (m := Attribute.type.key) given]
  refine Checked.promises_seq_of (Q := (· = kind.name))
    (Checked.promises_under (Checked.promises_pure kind.nameOf_name)) (Checked.promises_pure ?_)
  rintro _ rfl
  intros
  exact kind.ofName?_name

/-- A field of which it is not said whether it is required is not required. -/
theorem required_of_check (unsaid : get? item "required" = none) :
    (check (.object item)).Promises fun g => g.required = false := by
  refine promises_check ?_
  unfold ofEntries
  iterate 25 refine Checked.promises_seq ?_
  have missing : optional (Coercion.entries item) Attribute.required.key false Check.flag =
      .ok false := by
    rw [optional_coerced, Attribute.key, member?_plain, unsaid]
    rfl
  rw [missing]
  refine Checked.promises_seq_of (Q := (· = false)) (Checked.promises_pure rfl) ?_
  refine Checked.promises_seq (Checked.promises_seq (Checked.promises_pure ?_))
  intro type label required same
  intros
  exact same

end Field

end PromptForm
