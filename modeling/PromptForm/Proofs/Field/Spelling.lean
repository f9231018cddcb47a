import Mathlib.Data.List.Find
import Mathlib.Data.List.Forall2
import PromptForm.Proofs.Field.Held
import PromptForm.Proofs.Field.Rebuilt

/-! # Spellings of attributes

Some attributes have two spellings. As long as no attribute is there under both, it makes no
difference which one is used, with one exception: file types are trimmed, and blank ones left out,
only under their first spelling.
-/

namespace PromptForm

namespace Attribute

/-- Is the name one of the spellings of the attribute? -/
def spells (a : Attribute) (name : String) : Bool := a.key.key == name || a.key.second == name

theorem spells_iff {a : Attribute} {name : String} :
    a.spells name = true ↔ a.key.key = name ∨ a.key.second = name := by
  rw [spells, Bool.or_eq_true, beq_iff_eq, beq_iff_eq]

theorem ofName?_eq_some {name : String} {a : Attribute} :
    ofName? name = some a ↔ a.spells name = true := by
  constructor
  · intro found
    exact List.find?_some (p := fun a : Attribute => a.spells name) found
  · rw [spells_iff]
    rintro (rfl | rfl) <;> cases a <;> decide

theorem spells_unique {a b : Attribute} {name : String} (ha : a.spells name = true)
    (hb : b.spells name = true) : a = b :=
  Option.some.inj ((ofName?_eq_some.mpr ha).symm.trans (ofName?_eq_some.mpr hb))

end Attribute

open Attribute

namespace Entries

theorem has_of_mem {entries : Entries} {entry : String × Json} (listed : entry ∈ entries) :
    has entries entry.1 = true :=
  List.any_eq_true.mpr ⟨entry, listed, beq_self_eq_true _⟩

/-- The first entry that is spelled like the attribute. -/
def spelled? (entries : Entries) (a : Attribute) : Option (String × Json) :=
  entries.find? fun entry => a.spells entry.1

theorem of_spelled? {entries : Entries} {a : Attribute} {entry : String × Json}
    (h : spelled? entries a = some entry) : a.spells entry.1 = true ∧ has entries entry.1 = true :=
  ⟨List.find?_some (p := fun entry : String × Json => a.spells entry.1) h,
    has_of_mem (List.mem_of_find?_eq_some h)⟩

/-- No attribute is there under both of its spellings. -/
def OneSpelling (entries : Entries) : Prop :=
  ∀ a : Attribute, has entries a.key.key = true → has entries a.key.second = true →
    a.key.key = a.key.second

namespace OneSpelling

variable {entries : Entries}

theorem same (one : OneSpelling entries) {a : Attribute} {name name' : String}
    (h : a.spells name = true) (h' : a.spells name' = true) (given : has entries name = true)
    (given' : has entries name' = true) : name = name' := by
  rcases spells_iff.mp h with rfl | rfl <;> rcases spells_iff.mp h' with rfl | rfl
  · rfl
  · exact one a given given'
  · exact (one a given' given).symm
  · rfl

/-- With one spelling, an attribute is there as the first entry that is spelled like it. -/
theorem member?_eq (one : OneSpelling entries) (a : Attribute) :
    member? entries a.key = spelled? entries a := by
  unfold member? spelled?
  cases first : entries.find? (·.1 == a.key.key) with
  | none =>
      refine List.find?_congr fun entry listed => ?_
      have other : ¬ entry.1 = a.key.key := by simpa using List.find?_eq_none.mp first entry listed
      rw [Bool.eq_iff_iff, beq_iff_eq, spells_iff, or_iff_right (Ne.symm other), eq_comm]
  | some found =>
      have named : found.1 = a.key.key := by simpa using List.find?_some first
      have given : has entries a.key.key = true :=
        named ▸ has_of_mem (List.mem_of_find?_eq_some first)
      refine first.symm.trans (List.find?_congr fun entry listed => ?_)
      rw [Bool.eq_iff_iff, beq_iff_eq]
      constructor
      · exact fun same => spells_iff.mpr (.inl same.symm)
      · exact fun like => one.same like (spells_iff.mpr (.inl rfl)) (has_of_mem listed) given

/-- With one spelling, just the entries that are spelled like no attribute are left. -/
theorem rest_eq (one : OneSpelling entries) :
    rest entries Field.keys = entries.filter fun entry => (ofName? entry.1).isNone := by
  refine List.filter_congr fun entry listed => ?_
  rw [Bool.eq_iff_iff, Bool.not_eq_true', ← Bool.not_eq_true, List.contains_iff_mem,
    Option.isNone_iff_eq_none, Option.eq_none_iff_forall_ne_some]
  constructor
  · intro unused a named
    have like := ofName?_eq_some.mp named
    have there : (spelled? entries a).isSome = true := List.find?_isSome.mpr ⟨entry, listed, like⟩
    obtain ⟨found, first⟩ := Option.isSome_iff_exists.mp there
    have same := one.same like (of_spelled? first).1 (has_of_mem listed) (of_spelled? first).2
    refine unused (List.mem_filterMap.mpr ⟨a.key, List.mem_map_of_mem a.mem_all, ?_⟩)
    rw [one.member?_eq, first, Option.map_some, same]
  · intro free used
    obtain ⟨m, key, given⟩ := List.mem_filterMap.mp used
    obtain ⟨a, -, rfl⟩ := List.mem_map.mp key
    obtain ⟨found, first, same⟩ := Option.map_eq_some_iff.mp given
    rw [one.member?_eq] at first
    exact free a (ofName?_eq_some.mpr (same ▸ (of_spelled? first).1))

end OneSpelling

/-- An entry with the same value, under the same name or under another spelling of an attribute. -/
def Respells (entry entry' : String × Json) : Prop :=
  entry.2 = entry'.2 ∧
    (entry.1 = entry'.1 ∨ ∃ a : Attribute, a.spells entry.1 = true ∧ a.spells entry'.1 = true)

/-- The same entries, with other spellings of some attributes. -/
def Respelled (entries entries' : Entries) : Prop := List.Forall₂ Respells entries entries'

theorem Respells.spells_eq {entry entry' : String × Json} (h : Respells entry entry')
    (a : Attribute) : a.spells entry.1 = a.spells entry'.1 := by
  rcases h.2 with same | ⟨b, like, like'⟩
  · rw [same]
  · rw [Bool.eq_iff_iff]
    exact ⟨fun own => spells_unique own like ▸ like', fun own => spells_unique own like' ▸ like⟩

theorem Respells.ofName?_eq {entry entry' : String × Json} (h : Respells entry entry') :
    ofName? entry.1 = ofName? entry'.1 :=
  congrArg all.find? (funext h.spells_eq)

theorem Respells.eq_of_free {entry entry' : String × Json} (h : Respells entry entry')
    (free : ofName? entry.1 = none) : entry = entry' := by
  rcases h.2 with same | ⟨b, like, -⟩
  · exact Prod.ext same h.1
  · rw [ofName?_eq_some.mpr like] at free
    cases free

namespace Respelled

variable {entries entries' : Entries}

/-- An attribute is there in both or in none, with the same value. -/
theorem spelled?_cases (h : Respelled entries entries') (a : Attribute) :
    (spelled? entries a = none ∧ spelled? entries' a = none) ∨ ∃ entry entry',
      spelled? entries a = some entry ∧ spelled? entries' a = some entry' ∧ entry.2 = entry'.2 := by
  unfold spelled?
  induction h with
  | nil => exact .inl ⟨rfl, rfl⟩
  | @cons entry entry' _ _ first _ ih =>
      rw [List.find?_cons, List.find?_cons, ← first.spells_eq]
      split
      · exact .inr ⟨entry, entry', rfl, rfl, first.1⟩
      · exact ih

/-- The entries that are spelled like no attribute are the same. -/
theorem free_eq (h : Respelled entries entries') :
    (entries.filter fun entry => (ofName? entry.1).isNone) =
      entries'.filter fun entry => (ofName? entry.1).isNone := by
  induction h with
  | nil => rfl
  | @cons entry entry' rest rest' first _ ih =>
      rw [List.filter_cons, List.filter_cons, ← first.ofName?_eq, ih]
      split
      · rw [first.eq_of_free (Option.isNone_iff_eq_none.mp ‹_›)]
      · rfl

end Respelled

end Entries

/-! ## Values in form -/

namespace Coercion

open Entries

theorem spelled?_entries (d : Entries) (a : Attribute) :
    spelled? (entries d) a = (spelled? d a).map fun entry => (entry.1, value entry.1 entry.2) :=
  List.find?_map

theorem oneSpelling_entries {d : Entries} (one : OneSpelling d) : OneSpelling (entries d) := by
  have same (key : String) : has (entries d) key = has d key := by
    rw [has_eq, has_eq, get?_entries, Option.isSome_map]
  intro a
  rw [same, same]
  exact one a

theorem rest_entries {d : Entries} (one : OneSpelling d) :
    rest (entries d) Field.keys =
      (d.filter fun entry => (ofName? entry.1).isNone).map fun entry =>
        (entry.1, value entry.1 entry.2) := by
  rw [(oneSpelling_entries one).rest_eq]
  exact List.filter_map

/-- What the value of an attribute is brought to, but for file types under the second spelling. -/
def formed : AttributeForm → Json → Json
  | .kind, v | .flag, v => v
  | .label, v => .text (label v)
  | .looseFlag, v => .bool (affirmed v)
  | .text, v => .ofText? (text? v)
  | .number, v => .ofNumber? (number? v)
  | .whole, v => .ofInt? (whole? v |>.toOption |>.join)
  | .list, v => .array (list v)
  | .texts, v => .array (texts (list v))

theorem value_of_spells {a : Attribute} {name : String} (like : a.spells name = true)
    (trimming : name ≠ allowedFileTypes.key.second) (v : Json) :
    value name v = formed a.form v := by
  unfold value
  rw [ofName?_eq_some.mpr like]
  cases a
  case allowedFileTypes =>
    have first : name = allowedFileTypes.key.key :=
      ((spells_iff.mp like).resolve_right (Ne.symm trimming)).symm
    subst first
    rfl
  all_goals rfl

/-- Values are brought into the same form under both spellings of an attribute, unless they are file
types. -/
theorem value_spelled {a : Attribute} {name name' : String} (like : a.spells name = true)
    (like' : a.spells name' = true) (other : a ≠ .allowedFileTypes) (v : Json) :
    value name v = value name' v := by
  have trimming {name : String} (like : a.spells name = true) :
      name ≠ allowedFileTypes.key.second := by
    rintro rfl
    exact other (spells_unique like (spells_iff.mpr (.inr rfl)))
  rw [value_of_spells like (trimming like), value_of_spells like' (trimming like')]

/-- The first whole number that is not finite, of a value that may be there. -/
def wholeFault? (v? : Option Json) : Option NotFinite :=
  match v?.map whole? with
  | some (.error e) => some e
  | _ => none

/-- With one spelling, whole numbers are looked for under either of them. -/
theorem fault?_eq {d : Entries} (one : OneSpelling d) :
    fault? d = (wholeFault? ((spelled? d .maxFiles).map Prod.snd)).or
      (wholeFault? ((spelled? d .level).map Prod.snd)) := by
  have files : (spelled? d .maxFiles).map Prod.snd =
      (get? d "maxFiles").or (get? d "max_files") := by
    rw [← one.member?_eq, member?_eq, Option.map_or, Option.map_map, Option.map_map]
    exact congrArg₂ Option.or Option.map_id' Option.map_id'
  have level : (spelled? d .level).map Prod.snd = get? d "level" := by
    rw [← one.member?_eq, Attribute.key, member?_plain, Option.map_map]
    exact Option.map_id'
  have read : fault? d = (wholeFault? (get? d "maxFiles")).or
      ((wholeFault? (get? d "max_files")).or (wholeFault? (get? d "level"))) := by
    have each : fault? d = wholeNames.findSome? fun name => wholeFault? (get? d name) := rfl
    simp only [each, wholeNames, List.findSome?_cons, List.findSome?_nil]
    cases wholeFault? (get? d "maxFiles") <;> cases wholeFault? (get? d "max_files") <;>
      cases wholeFault? (get? d "level") <;> rfl
  rw [read, files, level, ← Option.or_assoc]
  congr 1
  cases first : get? d "maxFiles" with
  | none => rfl
  | some v =>
      have alone : get? d "max_files" = none := by
        have given : has d "maxFiles" = true := by rw [has_eq, first]; rfl
        rw [← Option.not_isSome_iff_eq_none, ← has_eq]
        exact fun second => absurd (one .maxFiles given second) (by decide)
      rw [alone, Option.or_none]
      exact Option.or_none

/-- If the value is taken for a list, it is one of texts that can be shown as they are. -/
def Tidy (v : Json) : Prop := ∃ ss : List String, list v = ss.map .text ∧ ∀ s ∈ ss, Neat s

theorem neat_texts (items : List Json) :
    ∃ ss : List String, texts items = ss.map .text ∧ ∀ s ∈ ss, Neat s := by
  refine ⟨_, rfl, fun s kept => ?_⟩
  obtain ⟨listed, filled⟩ := List.mem_filter.mp kept
  obtain ⟨v, -, rfl⟩ := List.mem_map.mp listed
  exact .of_tight (trimmed_trimmed _) (by simpa using filled)

theorem texts_of_neat {ss : List String} (neat : ∀ s ∈ ss, Neat s) :
    texts (ss.map .text) = ss.map .text := by
  have same : (ss.map Json.text).map (fun v => trimmed v.display) = ss := by
    rw [List.map_map]
    exact (List.map_congr_left fun s hs => (neat s hs).tight).trans (List.map_id ss)
  rw [texts, same, List.filter_eq_self.mpr fun s hs => by rw [(neat s hs).filled]; rfl]

end Coercion

/-- A list passes as one of texts just if all of its items are texts. -/
theorem AttributeForm.taken?_texts {items : List Json} {w : Json} :
    AttributeForm.texts.taken? (.array items) = some w ↔
      w = .array items ∧ ∃ ss : List String, items = ss.map .text := by
  simp only [taken?, Check.list, Option.map_eq_some_iff, Checked.value?_eq_some, Checked.items_text]
  constructor
  · rintro ⟨ss, rfl, rfl⟩
    exact ⟨rfl, ss, rfl⟩
  · rintro ⟨rfl, ss, rfl⟩
    exact ⟨ss, rfl, rfl⟩

/-- File types are taken alike under both spellings just if they are tidy. -/
theorem Coercion.taken?_types_iff {v : Json} :
    allowedFileTypes.form.taken? (value allowedFileTypes.key.key v) =
      allowedFileTypes.form.taken? (value allowedFileTypes.key.second v) ↔ Tidy v := by
  have first : value allowedFileTypes.key.key v = .array (texts (list v)) := rfl
  have second : value allowedFileTypes.key.second v = .array (list v) := rfl
  have form : allowedFileTypes.form = .texts := rfl
  obtain ⟨ss, trimmed, neat⟩ := neat_texts (list v)
  rw [first, second, form]
  constructor
  · intro same
    have taken := AttributeForm.taken?_texts.mpr ⟨rfl, ss, trimmed⟩
    rw [same] at taken
    obtain ⟨kept, -⟩ := AttributeForm.taken?_texts.mp taken
    exact ⟨ss, (Json.array.inj kept).symm.trans trimmed, neat⟩
  · rintro ⟨ss, listed, neat⟩
    rw [listed, texts_of_neat neat]

namespace Entries

open Coercion

/-- File types have one spelling in both, or else they are tidy. -/
def TypesAlike (d d' : Entries) : Prop :=
  (has d allowedFileTypes.key.key = true ↔ has d' allowedFileTypes.key.key = true) ∨
    ∀ entry, member? d allowedFileTypes.key = some entry → Tidy entry.2

theorem OneSpelling.held?_entries {d : Entries} (one : OneSpelling d) (a : Attribute) :
    held? (Coercion.entries d) a = match spelled? d a with
      | some entry => a.form.taken? (value entry.1 entry.2)
      | none => some (RawField.default a) := by
  rw [held?, (oneSpelling_entries one).member?_eq, spelled?_entries]
  cases spelled? d a <;> rfl

theorem OneSpelling.has_iff {d : Entries} (one : OneSpelling d) {a : Attribute}
    {entry : String × Json} (found : spelled? d a = some entry) :
    has d a.key.key = true ↔ entry.1 = a.key.key := by
  obtain ⟨like, given⟩ := of_spelled? found
  constructor
  · exact fun first => one.same like (spells_iff.mpr (.inl rfl)) given first
  · exact fun same => same ▸ given

namespace Respelled

variable {d d' : Entries}

theorem value_eq (h : Respelled d d') (a : Attribute) :
    (spelled? d a).map Prod.snd = (spelled? d' a).map Prod.snd := by
  rcases h.spelled?_cases a with ⟨first, second⟩ | ⟨entry, entry', first, second, same⟩
  · rw [first, second]
  · rw [first, second, Option.map_some, Option.map_some, same]

theorem held?_eq (h : Respelled d d') (one : OneSpelling d) (one' : OneSpelling d') {a : Attribute}
    (other : a ≠ .allowedFileTypes) :
    held? (Coercion.entries d) a = held? (Coercion.entries d') a := by
  rw [one.held?_entries, one'.held?_entries]
  rcases h.spelled?_cases a with ⟨first, second⟩ | ⟨entry, entry', first, second, same⟩
  · rw [first, second]
  · simp only [first, second, same,
      value_spelled (of_spelled? first).1 (of_spelled? second).1 other]

theorem held?_types_iff (h : Respelled d d') (one : OneSpelling d) (one' : OneSpelling d') :
    held? (Coercion.entries d) .allowedFileTypes = held? (Coercion.entries d') .allowedFileTypes ↔
      TypesAlike d d' := by
  rw [one.held?_entries, one'.held?_entries, TypesAlike, one.member?_eq]
  rcases h.spelled?_cases .allowedFileTypes with
    ⟨first, second⟩ | ⟨⟨name, v⟩, ⟨name', v'⟩, first, second, same⟩
  · simp [first, second]
  · obtain rfl : v = v' := same
    have apart : allowedFileTypes.key.second ≠ allowedFileTypes.key.key := by decide
    simp only [first, second, one.has_iff first, one'.has_iff second, Option.some.injEq, forall_eq']
    rcases spells_iff.mp (of_spelled? first).1 with rfl | rfl <;>
      rcases spells_iff.mp (of_spelled? second).1 with rfl | rfl
    · simp
    · simpa [apart] using taken?_types_iff
    · simpa [apart, eq_comm] using taken?_types_iff
    · simp

end Respelled

end Entries

namespace Field

open Entries Coercion

theorem check_object {d : Entries} {f : Field} : check (.object d) = .ok f ↔
    Coercion.fault? d = none ∧ (∀ a, held? (Coercion.entries d) a = some (f.get a)) ∧
      f.extras = rest (Coercion.entries d) keys ∧ f.given = givenBy (Coercion.entries d) := by
  rw [check_eq_ok]
  simp only [Json.object.injEq, exists_eq_left', ofEntries_eq_ok]

/-- Entries with other spellings pass the check of a field with the same result just if file types
are spelled alike or tidy, or else none of them passes anyway. -/
theorem check_respelled_iff {d d' : Entries} (h : Respelled d d') (one : OneSpelling d)
    (one' : OneSpelling d') : (∀ f, check (.object d) = .ok f ↔ check (.object d') = .ok f) ↔
      TypesAlike d d' ∨ ∀ f, check (.object d) ≠ .ok f ∧ check (.object d') ≠ .ok f := by
  have fault : Coercion.fault? d = Coercion.fault? d' := by
    rw [Coercion.fault?_eq one, Coercion.fault?_eq one', h.value_eq, h.value_eq]
  have extras : rest (Coercion.entries d) keys = rest (Coercion.entries d') keys := by
    rw [rest_entries one, rest_entries one', h.free_eq]
  have given : givenBy (Coercion.entries d) = givenBy (Coercion.entries d') := by
    refine List.filter_congr fun a _ => ?_
    have there := congrArg Option.isSome (h.value_eq a)
    rw [Option.isSome_map, Option.isSome_map, ← one.member?_eq, ← one'.member?_eq] at there
    rw [member?_entries, member?_entries, Option.isSome_map, Option.isSome_map, there]
  constructor
  · intro same
    by_cases alike : TypesAlike d d'
    · exact .inl alike
    · refine .inr fun f => ?_
      have unlike (passed : check (.object d) = .ok f) (passed' : check (.object d') = .ok f) :
          False := by
        have held := (check_object.mp passed).2.1 .allowedFileTypes
        have held' := (check_object.mp passed').2.1 .allowedFileTypes
        exact alike ((h.held?_types_iff one one').mp (held.trans held'.symm))
      exact ⟨fun passed => unlike passed ((same f).mp passed),
        fun passed => unlike ((same f).mpr passed) passed⟩
  · rintro (alike | neither) f
    · have held (a : Attribute) :
          held? (Coercion.entries d) a = held? (Coercion.entries d') a := by
        by_cases types : a = .allowedFileTypes
        · exact types ▸ (h.held?_types_iff one one').mpr alike
        · exact h.held?_eq one one' types
      simp only [check_object, fault, held, extras, given]
    · exact iff_of_false (neither f).1 (neither f).2

/-- An upload that is read alike under either spelling. -/
theorem check_respelled_upload : ∃ f,
    check (.object [("type", .text "file"), ("max_files", .text "2"),
      ("allowed_file_types", .text "pdf"), ("note", .null)]) = .ok f ∧
    check (.object [("type", .text "file"), ("maxFiles", .text "2"),
      ("allowedFileTypes", .text "pdf"), ("note", .null)]) = .ok f := by
  have respelled : Respelled
      [("type", .text "file"), ("max_files", .text "2"), ("allowed_file_types", .text "pdf"),
        ("note", .null)]
      [("type", .text "file"), ("maxFiles", .text "2"), ("allowedFileTypes", .text "pdf"),
        ("note", .null)] :=
    .cons ⟨rfl, .inl rfl⟩ (.cons ⟨rfl, .inr ⟨.maxFiles, by decide⟩⟩
      (.cons ⟨rfl, .inr ⟨.allowedFileTypes, by decide⟩⟩ (.cons ⟨rfl, .inl rfl⟩ .nil)))
  have same := check_respelled_iff respelled (fun a => by cases a <;> decide)
    (fun a => by cases a <;> decide)
  have tidy : Tidy (.text "pdf") :=
    ⟨["pdf"], rfl, List.forall_mem_singleton.mpr (.of_trimmed? (s := "pdf") (by decide))⟩
  have alike := same.mpr (.inl (.inr fun entry found => by cases found; exact tidy))
  exact ⟨_, rfl, (alike _).mp rfl⟩

/-- A file type that is a number is taken for a text only under the first spelling. -/
theorem not_respelled_number :
    Respelled [("allowedFileTypes", .array [.int 1])] [("allowed_file_types", .array [.int 1])] ∧
    OneSpelling [("allowedFileTypes", .array [.int 1])] ∧
    OneSpelling [("allowed_file_types", .array [.int 1])] ∧
    (∃ f, check (.object [("allowedFileTypes", .array [.int 1])]) = .ok f ∧
      f.allowedFileTypes = ["1"]) ∧
    ∀ f, check (.object [("allowed_file_types", .array [.int 1])]) ≠ .ok f := by
  let f : Field := { plain .text "" with allowedFileTypes := ["1"], given := [.allowedFileTypes] }
  refine ⟨.cons ⟨rfl, .inr ⟨.allowedFileTypes, by decide⟩⟩ .nil, fun a => by cases a <;> decide,
    fun a => by cases a <;> decide, ⟨f, rfl, rfl⟩, ?_⟩
  have refused : check (.object [("allowed_file_types", .array [.int 1])]) =
      .bad [⟨.notText, [.key "allowed_file_types", .index 0]⟩] := rfl
  simp only [refused, ne_eq, reduceCtorEq, not_false_eq_true, implies_true]

end Field

end PromptForm
