import PromptForm.Proofs.Field.Spelling
import PromptForm.Proofs.Text.Slug

/-! # Fields that are read again

The values of a checked field are in form, so nothing happens to them when the field is written down
and checked again: the same field comes of it, in which everything counts as given.
-/

namespace PromptForm

open Entries Coercion

namespace Kind

theorem slugged_slugOf (raw : Json) : slugged (slugOf raw) = slugOf raw := by
  rw [slugOf]
  split
  · exact slugged_slugged _
  · decide

theorem slugOf_text (s : String) : slugOf (.text s) = slugged s := by
  rw [slugOf, Json.truthy, Json.display]
  cases empty : s.isEmpty with
  | false => rfl
  | true =>
      rw [String.isEmpty_iff.mp empty]
      decide

theorem nameOf_congr {raw raw' : Json} (same : slugOf raw = slugOf raw') :
    nameOf raw = nameOf raw' := by
  simp only [nameOf, resolve?, same]

/-- The name of a kind, or the slug of an unknown one, is its own name. -/
theorem nameOf_nameOf (raw : Json) : nameOf (.text (nameOf raw)) = nameOf raw := by
  cases found : resolve? raw with
  | some kind =>
      have named : nameOf raw = kind.name := by rw [nameOf, found]
      rw [named, nameOf_name]
  | none =>
      have named : nameOf raw = if (slugOf raw).isEmpty then text.name else slugOf raw := by
        rw [nameOf, found]
      cases empty : (slugOf raw).isEmpty with
      | true =>
          rw [empty, if_pos rfl] at named
          rw [named, nameOf_name]
      | false =>
          rw [empty, if_neg Bool.false_ne_true] at named
          have same : slugOf (.text (slugOf raw)) = slugOf raw := by
            rw [slugOf_text, slugged_slugOf]
          exact (congrArg (fun s => nameOf (.text s)) named).trans (nameOf_congr same)

end Kind

namespace Coercion

@[simp] theorem text?_ofText? (s? : Option String) : text? (.ofText? s?) = s? := by cases s? <;> rfl

@[simp] theorem number?_ofNumber? (n? : Option Number) : number? (.ofNumber? n?) = n? := by
  rcases n? with _ | _ | _ <;> rfl

@[simp] theorem whole?_ofInt? (n? : Option Int) : whole? (.ofInt? n?) = .ok n? := by
  cases n? <;> rfl

/-- Bringing a value into form again changes nothing. -/
theorem formed_formed (form : AttributeForm) (v : Json) :
    formed form (formed form v) = formed form v := by
  cases form with
  | kind | flag | label | looseFlag => rfl
  | text => rw [formed, formed, text?_ofText?]
  | number => rw [formed, formed, number?_ofNumber?]
  | whole => rw [formed, formed, whole?_ofInt?]; rfl
  | list => rfl
  | texts =>
      obtain ⟨ss, kept, neat⟩ := neat_texts (list v)
      rw [formed, formed, Coercion.list, kept, texts_of_neat neat]

/-- So does bringing it into form under a name, unless it is the second spelling of file types. -/
theorem value_value {name : String} (trimming : name ≠ Attribute.allowedFileTypes.key.second)
    (v : Json) : value name (value name v) = value name v := by
  cases named : Attribute.ofName? name with
  | none => simp only [value, named, Option.map_none]
  | some a =>
      have like := Attribute.ofName?_eq_some.mp named
      rw [value_of_spells like trimming, value_of_spells like trimming, formed_formed]

end Coercion

/-! ## Settled values -/

/-- A value of an attribute that is in form and passes its check as it is. -/
structure AttributeForm.Settled (form : AttributeForm) (v : Json) : Prop where
  formed : formed form v = v
  taken : form.taken? v = some v

namespace AttributeForm

theorem settled_texts {ss : List String} (neat : ∀ s ∈ ss, Neat s) :
    Settled .texts (.array (ss.map .text)) where
  formed := by rw [Coercion.formed, Coercion.list, texts_of_neat neat]
  taken := taken?_texts.mpr ⟨rfl, ss, rfl⟩

/-- What passes the check of an attribute that holds no file types is settled. -/
theorem settled_of_taken? {form : AttributeForm} {v w : Json} (other : form ≠ .texts)
    (h : form.taken? v = some w) : Settled form w := by
  cases form with
  | kind =>
      cases h
      exact ⟨rfl, congrArg (some ∘ Json.text) (Kind.nameOf_nameOf v)⟩
  | label =>
      obtain ⟨s, -, rfl⟩ := Option.map_eq_some_iff.mp h
      exact ⟨rfl, congrArg (some ∘ Json.text) (trimmed_trimmed s)⟩
  | looseFlag =>
      obtain ⟨b, -, rfl⟩ := Option.map_eq_some_iff.mp h
      exact ⟨rfl, rfl⟩
  | flag =>
      obtain ⟨b?, -, rfl⟩ := Option.map_eq_some_iff.mp h
      exact ⟨rfl, by cases b? <;> rfl⟩
  | text =>
      obtain ⟨s?, -, rfl⟩ := Option.map_eq_some_iff.mp h
      exact ⟨by rw [formed, text?_ofText?], by cases s? <;> rfl⟩
  | number =>
      obtain ⟨n?, -, rfl⟩ := Option.map_eq_some_iff.mp h
      exact ⟨by rw [formed, number?_ofNumber?], by rcases n? with _ | _ | _ <;> rfl⟩
  | whole =>
      obtain ⟨n?, -, rfl⟩ := Option.map_eq_some_iff.mp h
      exact ⟨by rw [formed, whole?_ofInt?]; rfl, by cases n? <;> rfl⟩
  | list =>
      obtain ⟨items, -, rfl⟩ := Option.map_eq_some_iff.mp h
      exact ⟨rfl, by simp only [taken?, Check.list, Checked.items_any]; rfl⟩
  | texts => exact absurd rfl other

end AttributeForm

theorem Attribute.form_ne_texts {a : Attribute} (other : a ≠ .allowedFileTypes) :
    a.form ≠ .texts := by
  cases a
  case allowedFileTypes => exact absurd rfl other
  all_goals decide

theorem Attribute.settled_default (a : Attribute) : a.form.Settled (RawField.default a) := by
  cases a <;> exact ⟨rfl, rfl⟩

/-- A field whose values are settled, and whose extras are in form and hide no attribute. -/
structure Field.Settled (f : Field) : Prop where
  values : ∀ a : Attribute, a.form.Settled (f.get a)
  extras : ∀ entry ∈ f.extras, value entry.1 entry.2 = entry.2
  apart : ∀ a : Attribute, has f.extras a.key.key = false

namespace Field

/-- No attribute is left under its first spelling. -/
theorem has_rest (entries : Entries) (a : Attribute) :
    has (rest entries keys) a.key.key = false := by
  rw [← Bool.not_eq_true]
  intro there
  obtain ⟨entry, listed, named⟩ := List.any_eq_true.mp there
  obtain ⟨own, unused⟩ := List.mem_filter.mp listed
  obtain ⟨v, found⟩ := Option.isSome_iff_exists.mp
    ((has_eq entries entry.1).symm.trans (has_of_mem own))
  rw [beq_iff_eq.mp named] at found unused
  have used : a.key.key ∈ keys.filterMap fun m => (member? entries m).map (·.1) :=
    List.mem_filterMap.mpr
      ⟨a.key, List.mem_map_of_mem a.mem_all, by rw [member?_of_get? found]; rfl⟩
  rw [List.contains_iff_mem.mpr used] at unused
  cases unused

/-- A field that passed its check is settled, if the second spelling of file types was not used. -/
theorem settled_of_check {d : Entries} {f : Field} (passed : check (.object d) = .ok f)
    (trimming : has d Attribute.allowedFileTypes.key.second = false) : f.Settled := by
  obtain ⟨-, held, extras, -⟩ := check_object.mp passed
  have absent : get? d Attribute.allowedFileTypes.key.second = none := by
    rwa [has_eq, ← Bool.not_eq_true, Option.not_isSome_iff_eq_none] at trimming
  refine ⟨fun a => ?_, ?_, fun a => extras ▸ has_rest _ a⟩
  · have own := held a
    rw [Attribute.held?, member?_entries] at own
    cases given : member? d a.key with
    | none =>
        rw [given] at own
        exact Option.some.inj own ▸ a.settled_default
    | some entry =>
        rw [given] at own
        by_cases types : a = .allowedFileTypes
        · subst types
          rw [member?_eq, absent, Option.map_none, Option.or_none] at given
          obtain ⟨v, -, rfl⟩ := Option.map_eq_some_iff.mp given
          obtain ⟨ss, kept, neat⟩ := neat_texts (list v)
          have taken : AttributeForm.texts.taken? (.array (texts (list v))) = _ := own
          rw [(AttributeForm.taken?_texts.mp taken).1, kept]
          exact AttributeForm.settled_texts neat
        · exact AttributeForm.settled_of_taken? (Attribute.form_ne_texts types) own
  · rw [extras]
    intro entry listed
    obtain ⟨own, -⟩ := List.mem_filter.mp listed
    obtain ⟨⟨name, v⟩, given, rfl⟩ := List.mem_map.mp own
    refine value_value ?_ v
    rintro rfl
    rw [has_of_mem given] at trimming
    cases trimming

/-! ## Fields written down -/

/-- All attributes with their values, and the extras, under the names that are used when a field is
sent. -/
def dump (f : Field) : Entries := Attribute.all.map (fun a => (a.key.key, f.get a)) ++ f.extras

theorem get?_dump (f : Field) (a : Attribute) : get? f.dump a.key.key = some (f.get a) := by
  have listed : get? (Attribute.all.map fun a => (a.key.key, f.get a)) a.key.key =
      some (f.get a) := by
    cases a <;> rfl
  rw [dump, get?_append, listed, Option.some_or]

theorem member?_dump (f : Field) (a : Attribute) :
    member? f.dump a.key = some (a.key.key, f.get a) :=
  member?_of_get? (f.get?_dump a)

namespace Settled

variable {f : Field}

theorem entries_dump (h : f.Settled) : Coercion.entries f.dump = f.dump := by
  have settled (a : Attribute) : value a.key.key (f.get a) = f.get a := by
    rw [value_of_spells (Attribute.spells_iff.mpr (.inl rfl)) (by cases a <;> decide),
      (h.values a).formed]
  have extras : f.extras.map (fun entry => (entry.1, value entry.1 entry.2)) = f.extras :=
    (List.map_congr_left (g := id) fun entry listed =>
      congrArg (Prod.mk entry.1) (h.extras entry listed)).trans (List.map_id _)
  simp only [Coercion.entries, dump, List.map_append, List.map_map, extras, Function.comp_def,
    settled]

theorem fault?_dump (h : f.Settled) : Coercion.fault? f.dump = none := by
  refine List.findSome?_eq_none_iff.mpr fun name listed => ?_
  have whole (v : Json) : value name v = .ofInt? ((whole? v).toOption.join) := by
    simp only [wholeNames, List.mem_cons, List.not_mem_nil, or_false] at listed
    rcases listed with rfl | rfl | rfl <;> rfl
  cases found : get? f.dump name with
  | none => rfl
  | some v =>
      have settled : value name v = v := by
        have again := get?_entries f.dump name
        rw [h.entries_dump, found] at again
        exact (Option.some.inj again).symm
      rw [whole] at settled
      rw [← settled, Option.map_some, whole?_ofInt?]

theorem rest_dump (h : f.Settled) : rest f.dump keys = f.extras := by
  have used : (keys.filterMap fun m => (member? f.dump m).map (·.1)) =
      Attribute.all.map (·.key.key) := by
    simp only [keys, List.filterMap_map, Function.comp_def, member?_dump, Option.map_some]
    exact congrFun (List.filterMap_eq_map (f := fun a : Attribute => a.key.key)) Attribute.all
  simp only [rest, used]
  rw [dump, List.filter_append, List.filter_eq_nil_iff.mpr, List.filter_eq_self.mpr,
    List.nil_append]
  · intro entry listed
    rw [Bool.not_eq_true', ← Bool.not_eq_true, List.contains_iff_mem]
    intro named
    obtain ⟨a, -, same⟩ := List.mem_map.mp named
    have there := has_of_mem listed
    rw [← same, h.apart] at there
    cases there
  · intro entry listed
    obtain ⟨a, own, rfl⟩ := List.mem_map.mp listed
    rw [Bool.not_eq_true', Bool.not_eq_false, List.contains_iff_mem]
    exact List.mem_map_of_mem own

/-- A settled field that is written down is read as itself, with everything given. -/
theorem check_dump (h : f.Settled) :
    check (.object f.dump) = .ok { f with given := Attribute.all } := by
  refine check_object.mpr ⟨h.fault?_dump, fun a => ?_, ?_, ?_⟩
  · have same : ({ f with given := Attribute.all } : Field).get a = f.get a := by cases a <;> rfl
    rw [h.entries_dump, Attribute.held?, member?_dump, same]
    exact (h.values a).taken
  · rw [h.entries_dump, h.rest_dump]
  · rw [h.entries_dump]
    exact (List.filter_eq_self.mpr fun a _ => by rw [member?_dump]; rfl).symm

end Settled

/-! ## Fields that are sent -/

/-- The field with null for every number in a list or an extra that is not finite. -/
def finite (f : Field) : Field :=
  { f with
    options := Json.finiteItems f.options
    rows := Json.finiteItems f.rows
    columns := Json.finiteItems f.columns
    extras := Json.finiteEntries f.extras }

theorem entries_eq_dump (f : Field) : f.entries = f.finite.dump := by
  have same : f.sent = f.finite.get := by
    funext a
    cases a <;> rfl
  simp only [entries, attributeEntries, dump, same]
  rfl

theorem finiteEntries_eq_map (entries : Entries) :
    Json.finiteEntries entries = entries.map fun entry => (entry.1, entry.2.finite) := by
  induction entries with
  | nil => rfl
  | cons entry rest ih => rw [Json.finiteEntries, ih]; rfl

/-- A value in form stays in form when numbers that are not finite are left out of it. -/
theorem formed_finite {form : AttributeForm} {v : Json} (other : form ≠ .texts)
    (h : formed form v = v) : formed form v.finite = v.finite := by
  cases form with
  | kind | flag => rfl
  | label | looseFlag | list => rw [← h]; rfl
  | text =>
      rw [formed] at h ⊢
      rw [← h]
      cases text? v <;> rfl
  | number =>
      rw [formed] at h ⊢
      rw [← h]
      rcases number? v with _ | n | x
      · rfl
      · rfl
      · cases x <;> rfl
  | whole =>
      rw [formed] at h ⊢
      rw [← h]
      cases ((whole? v).toOption.join) <;> rfl
  | texts => exact absurd rfl other

theorem value_finite {name : String} {v : Json} (other : name ≠ Attribute.allowedFileTypes.key.key)
    (h : value name v = v) : value name v.finite = v.finite := by
  by_cases second : name = Attribute.allowedFileTypes.key.second
  · -- A list is made of the value, but nothing is trimmed.
    subst second
    have listed (w : Json) : value Attribute.allowedFileTypes.key.second w = .array (list w) := rfl
    rw [listed] at h ⊢
    rw [← h]
    rfl
  · cases named : Attribute.ofName? name with
    | none => simp only [value, named, Option.map_none]
    | some a =>
        have like := Attribute.ofName?_eq_some.mp named
        have plain : a ≠ .allowedFileTypes := by
          rintro rfl
          rcases Attribute.spells_iff.mp like with first | last
          · exact other first.symm
          · exact second last.symm
        rw [value_of_spells like second] at h ⊢
        exact formed_finite (Attribute.form_ne_texts plain) h

theorem Settled.finite {f : Field} (h : f.Settled) : f.finite.Settled := by
  have has_finite (key : String) : has f.finite.extras key = has f.extras key := by
    rw [Field.finite, finiteEntries_eq_map, has, has, List.any_map]
    rfl
  refine ⟨fun a => ?_, ?_, fun a => (has_finite a.key.key).trans (h.apart a)⟩
  · have list (items : List Json) : AttributeForm.Settled .list (.array items) :=
      ⟨rfl, by simp only [AttributeForm.taken?, Check.list, Checked.items_any]; rfl⟩
    cases a
    case options | rows | columns => exact list _
    all_goals exact h.values _
  · rw [Field.finite, finiteEntries_eq_map]
    intro _ listed
    obtain ⟨entry, own, rfl⟩ := List.mem_map.mp listed
    refine value_finite ?_ (h.extras entry own)
    intro named
    have there := has_of_mem own
    rw [named, h.apart] at there
    cases there

/-- A checked field that is written down and checked again is the same field, in which everything
counts as given, unless file types came under their second spelling. If it is sent as JSON, numbers
that are not finite are lost from its lists and extras. -/
theorem check_again {d : Entries} {f : Field} (passed : check (.object d) = .ok f)
    (trimming : has d "allowed_file_types" = false) :
    check (.object f.dump) = .ok { f with given := Attribute.all } ∧
      check (.object f.entries) = .ok { f.finite with given := Attribute.all } := by
  have settled := settled_of_check passed trimming
  exact ⟨settled.check_dump, entries_eq_dump f ▸ settled.finite.check_dump⟩

/-- A rating with both spellings of its maximum, of which the second one is left as an extra. -/
theorem check_again_rating : ∃ f, check (.object [("type", .text "Star Rating"),
      ("label", .text " Stay "), ("maxRating", .text "1e1"), ("max_rating", .text "7"),
      ("options", .double (.infinite false))]) = .ok f ∧
    f.extras = [("max_rating", .int 7)] ∧
    check (.object f.dump) = .ok { f with given := Attribute.all } ∧
    check (.object f.entries) = .ok { f with options := [.null], given := Attribute.all } := by
  let f : Field := { plain .rating "Stay" with
    maxRating := some (.int 10)
    options := [.double (.infinite false)]
    extras := [("max_rating", .int 7)]
    given := [.type, .label, .options, .maxRating] }
  have again := check_again (f := f) (d := [("type", .text "Star Rating"),
    ("label", .text " Stay "), ("maxRating", .text "1e1"), ("max_rating", .text "7"),
    ("options", .double (.infinite false))]) rfl rfl
  exact ⟨f, rfl, rfl, again⟩

end Field

end PromptForm
