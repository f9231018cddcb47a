import PromptForm.Json.Writer
import PromptForm.Proofs.Lowering.Conditions
import PromptForm.Proofs.Lowering.Resembling
import PromptForm.Proofs.Oracle.Boundary

/-! # Definitions and oracles agree

A definition rebuilds the entries of an item before they are checked, an oracle's form is checked as
it is. For the kinds whose attributes are passed on this makes no difference to the blocks, unless a
payment does not say whether it is required, or a null hides the value under a second spelling.
-/

namespace PromptForm

/-! ## Items that are passed on -/

namespace Definition

open Entries

/-- Of an item, those entries are passed on whose keys have not been set. -/
theorem get?_passed {common item : Entries} (distinct : (common.map Prod.fst).Nodup)
    (distinct' : (item.map Prod.fst).Nodup) (key : String) :
    get? (withoutNulls (withoutNulls common ++ passedOn item (withoutNulls common))) key =
      (present? common key).or (present? item key) := by
  have names (entries : Entries) (distinct : (entries.map Prod.fst).Nodup)
      (keep : String × Json → Bool) : ((entries.filter keep).map Prod.fst).Nodup :=
    distinct.sublist (List.filter_sublist.map Prod.fst)
  have all_names : ((withoutNulls common ++ passedOn item (withoutNulls common)).map
      Prod.fst).Nodup := by
    rw [List.map_append, List.nodup_append]
    refine ⟨names _ distinct _, names _ distinct' _, ?_⟩
    intro name set other passed same
    subst same
    obtain ⟨entry, listed, rfl⟩ := List.mem_map.mp passed
    obtain ⟨entry', listed', same⟩ := List.mem_map.mp set
    have unset := (List.mem_filter.mp listed).2
    simp only [has, Bool.not_eq_true', List.any_eq_false, beq_iff_eq] at unset
    exact unset entry' listed' same
  rw [get?_withoutNulls all_names, present?_eq, get?_append, get?_withoutNulls distinct, passedOn,
    get?_filter (fun name => !has (withoutNulls common) name), has_eq, get?_withoutNulls distinct]
  cases found : present? common key with
  | none => simp [present?_eq]
  | some v =>
      simp [Option.filter_some, (get?_of_present? found).2]

/-- An item of a kind whose attributes are passed on, as it may be in a definition or in a reply. -/
structure Passing (kind : Kind) (item : Entries) : Prop where
  passes : passes kind = true
  /-- An object has every key once. -/
  distinct : (item.map Prod.fst).Nodup
  type : get? item "type" = some (.text kind.name)
  label : ∃ s, get? item "label" = some (.text s)
  required : ∀ v, get? item "required" = some v → ∃ b, v = .bool b
  accepted : ∃ g, Field.check (.object item) = .ok g

variable {kind : Kind} {item : Entries}

theorem cleanText?_eq_some {v : Option Json} {shown : String} (h : cleanText? v = some shown) :
    ∃ s, v = some (.text s) ∧ trimmed? s = some shown := by
  unfold cleanText? at h
  split at h
  · exact ⟨_, rfl, h⟩
  · cases h

/-- The first value that is there and not null is that of the member, unless a null hides it. -/
theorem member?_of_firstPresent? {m : MemberKey} {v : Json}
    (unhidden : get? item m.key = some .null → present? item m.second = none)
    (given : firstPresent? item [m.key, m.second] = some v) :
    ∃ name, (name = m.key ∨ name = m.second) ∧ member? item m = some (name, v) := by
  simp only [firstPresent?, List.findSome?_cons, List.findSome?_nil] at given
  cases first : present? item m.key with
  | some w =>
      obtain rfl : w = v := by simpa [first] using given
      exact ⟨m.key, .inl rfl, member?_of_get? (get?_of_present? first).1⟩
  | none =>
      have second : present? item m.second = some v := by
        cases found : present? item m.second <;> simp_all
      have missing : get? item m.key = none := by
        rcases get?_of_absent first with missing | null
        · exact missing
        · rw [unhidden null] at second
          cases second
      refine ⟨m.second, .inr rfl, ?_⟩
      rw [member?_eq, missing, (get?_of_present? second).1]
      rfl

/-- The entries that an item of a kind whose attributes are passed on is rebuilt to. -/
def rebuilt (kind : Kind) (item : Entries) : Entries :=
  let common := withoutNulls
    (commonMembers item kind ((cleanText? (get? item "label")).getD ""))
  withoutNulls (common ++ passedOn item common)

theorem members?_of_passes (passes : passes kind = true) (item : Entries) :
    (members? item kind none).map withoutNulls = some (rebuilt kind item) := by
  cases kind with
  | linearScale | nps | likert | matrix | media | payment => rfl
  | _ => cases passes

/-- A text that is cleaned and then set is trimmed; one that is none is passed on. -/
theorem kept_or_trimmed {entries : Entries} {m : MemberKey} {v? : Option Json}
    (found : get? entries m.key = ((cleanText? v?).map Json.text).or (present? item m.key))
    (member : ∀ v, v? = some v →
      ∃ name, (name = m.key ∨ name = m.second) ∧ member? item m = some (name, v)) :
    get? entries m.key = present? item m.key ∨ Trimmed item entries m := by
  cases cleaned : cleanText? v? with
  | none =>
      rw [cleaned] at found
      exact .inl found
  | some shown =>
      rw [cleaned] at found
      obtain ⟨s, given, trims⟩ := cleanText?_eq_some cleaned
      obtain rfl := trimmed?_eq_some trims
      obtain ⟨name, named, at_member⟩ := member _ given
      exact .inr ⟨name, s, named, at_member, trims, found⟩

/-- Only attributes that are looked at are set, if the kind has no placeholder. -/
theorem present?_commonMembers {key : String} (plain : hasPlaceholder kind = false)
    (free : ∀ a ∈ Attribute.rebuilt, a.key.key ≠ key) (item : Entries) (label : String) :
    present? (commonMembers item kind label) key = none := by
  have unlike : "type" ≠ key ∧ "label" ≠ key ∧ "required" ≠ key ∧ "description" ≠ key ∧
      "showIf" ≠ key := by
    simpa [Attribute.rebuilt, Attribute.key, MemberKey.plain] using free
  by_cases last : "placeholder" = key
  · subst last
    simp [commonMembers, present?, get?_cons, plain]
  · simp [commonMembers, present?, get?, unlike, last]

namespace Passing

theorem get?_rebuilt (h : Passing kind item) (key : String) : get? (rebuilt kind item) key =
    (present? (commonMembers item kind ((cleanText? (get? item "label")).getD "")) key).or
      (present? item key) :=
  get?_passed (by simp [commonMembers]) h.distinct key

theorem get?_rebuilt_cleaned (h : Passing kind item) {key : String} {cleaned : Option String}
    (said : ∀ label, get? (commonMembers item kind label) key = some (.ofText? cleaned)) :
    get? (rebuilt kind item) key = (cleaned.map Json.text).or (present? item key) := by
  rw [h.get?_rebuilt, present?_eq, said]
  cases cleaned <;> rfl

theorem isRebuilt (h : Passing kind item) (unhidden : Unhidden item) :
    Rebuilt item (rebuilt kind item) := by
  constructor
  · exact ⟨kind.name, h.type, h.get?_rebuilt "type"⟩
  · obtain ⟨s, given⟩ := h.label
    have cleaned : (cleanText? (get? item "label")).getD "" = trimmed s := by
      rw [given, cleanText?, trimmed?_getD]
    have found := h.get?_rebuilt "label"
    rw [cleaned] at found
    exact ⟨s, given, found⟩
  · cases given : get? item "required" with
    | none =>
        have said (label : String) :
            present? (commonMembers item kind label) "required" = some (.bool false) := by
          simp [commonMembers, present?, get?_cons, given]
        exact ⟨false, rfl, by rw [h.get?_rebuilt, said, Option.some_or]⟩
    | some v =>
        obtain ⟨b, rfl⟩ := h.required v given
        have said (label : String) :
            present? (commonMembers item kind label) "required" = some (.bool b) := by
          simp [commonMembers, present?, get?_cons, given]
        exact ⟨b, rfl, by rw [h.get?_rebuilt, said, Option.some_or]⟩
  · exact kept_or_trimmed (m := Attribute.description.key) (h.get?_rebuilt_cleaned fun _ => rfl)
      fun v given => ⟨_, .inl rfl, member?_of_get? given⟩
  · exact kept_or_trimmed (m := Attribute.showIf.key) (h.get?_rebuilt_cleaned fun _ => rfl)
      fun v given => member?_of_firstPresent? (unhidden .showIf) given
  · intro key free
    have plain : hasPlaceholder kind = false := by
      have passes := h.passes
      revert passes
      cases kind <;> decide
    rw [h.get?_rebuilt, present?_commonMembers plain free, Option.none_or]

theorem typeSlug_eq (h : Passing kind item) : typeSlug item = kind.name := by
  rw [typeSlug, h.type, Option.getD_some, Kind.slugOf_name]

theorem untitled (h : Passing kind item) : titleTypes.contains (typeSlug item) = false := by
  rw [h.typeSlug_eq]
  cases kind <;> decide +kernel

theorem kindOf?_eq (h : Passing kind item) : kindOf? item = some (kind, none) := by
  have passes := h.passes
  rw [kindOf?, h.typeSlug_eq, Kind.ofName?_name]
  clear h
  revert passes
  cases kind <;> decide +kernel

/-- An item that is passed on becomes a field like the one that a reply with it has. -/
theorem fieldOf? (h : Passing kind item) (unhidden : Unhidden item) :
    ∃ f g, fieldOf? item = .ok (some f) ∧ Field.check (.object item) = .ok g ∧ f.Resembles g ∧
      g.kind? = some kind ∧ (.required ∈ g.given ↔ (get? item "required").isSome = true) := by
  obtain ⟨g, passed⟩ := h.accepted
  obtain ⟨f, accepted, resembles, given⟩ :=
    Field.check_follows (h.isRebuilt unhidden) unhidden g passed
  obtain ⟨members, found, same⟩ := Option.map_eq_some_iff.mp (members?_of_passes h.passes item)
  refine ⟨f, g, ?_, passed, resembles, Field.kind?_of_check h.type g passed, given⟩
  simp only [Definition.fieldOf?, h.kindOf?_eq, found, same, accepted]

end Passing

/-- A definition takes a payment for one that is not required if it is not said, a reply for one that
is. In everything else they agree. -/
theorem Passing.payment_unsaid (h : Passing .payment item) (unhidden : Unhidden item)
    (unsaid : get? item "required" = none) :
    ∃ f g, Definition.fieldOf? item = .ok (some f) ∧ Field.check (.object item) = .ok g ∧
      f.Alike (g.saying false) ∧ g.Alike (g.saying true) := by
  obtain ⟨f, g, made, passed, resembles, known, given⟩ := h.fieldOf? unhidden
  refine ⟨f, g, made, passed, ?_, ?_⟩
  · have optional : g.required = false := Field.required_of_check unsaid g passed
    have resembles_saying : f.Resembles (g.saying false) :=
      { resembles with
        same := by
          rw [Field.saying, ← optional]
          exact resembles.same }
    exact resembles_saying.alike known h.passes fun _ => List.mem_cons_self
  · have silent : g.given.contains .required = false := by
      rw [← Bool.not_eq_true, List.contains_iff_mem, given, unsaid]
      exact Bool.false_ne_true
    exact Field.alike_saying known silent

end Definition

/-! ## Forms of one item -/

/-- A form with a title and one field. -/
def Form.single (title : String) (f : Field) (settings : Option Settings) : Form :=
  ⟨trimmed title, none, [⟨"", none, [f], []⟩], settings, []⟩

theorem Part.ofForm_single (title : String) (f : Field) (settings : Option Settings)
    (attribution : Option String) : ofForm (.single title f settings) attribution =
      [filler (.formTitle (trimmed title)), field f,
        filler (.text ((attribution.bind nonEmpty?).getD defaultAttribution))] := by
  have untitled : trimmed? "" = none := by decide
  simp [ofForm, Form.single, paragraph, ofSections, ofSection, untitled]

theorem Form.blocks_single {title : String} {f g : Field} (alike : f.Alike g)
    (settings settings' : Option Settings) (attribution : Option String) :
    (single title f settings).blocks attribution = (single title g settings').blocks attribution := by
  refine blocks_alike ?_
  rw [Part.ofForm_single, Part.ofForm_single]
  exact .cons (.filler _) (.cons (.field alike) (.cons (.filler _) .nil))

namespace Definition

open Entries

/-- A definition with a title and one item. -/
def ofItem (title : String) (item : Entries) : Entries :=
  [("title", .text title), ("fields", .array [.object item])]

theorem formOf?_ofItem {title : String} (shown : isBlankText title = false) {item : Entries}
    (untitled : titleTypes.contains (typeSlug item) = false) {f : Field}
    (made : fieldOf? item = .ok (some f)) :
    formOf? (ofItem title item) = .ok (some (.single title f (some .none))) := by
  have titled : cleanText? (get? (ofItem title item) "title") = some (trimmed title) := by
    rw [ofItem, get?_cons, if_pos rfl, cleanText?, trimmed?_of_shown shown]
  have items : itemsOf (ofItem title item) = [.object item] := rfl
  simp only [formOf?, titled, items, Items.addAll, untitled, made]
  rfl

theorem Defines.formOfPrompt?_eq {prompt : String} {definition : Entries}
    (h : Defines prompt definition) : formOfPrompt? prompt = formOf? definition := by
  obtain ⟨text, begins, read⟩ := h
  rw [formOfPrompt?, begins]
  simp only [read]
  rfl

end Definition

namespace Oracle

/-- A reply with a title and a section of one item. -/
def ofItem (title : String) (item : Entries) : Entries :=
  [("title", .text title), ("sections", .array [.object [("fields", .array [.object item])]])]

theorem formOfJson_ofItem {title : String} (shown : isBlankText title = false) {item : Entries}
    {g : Field} (passed : Field.check (.object item) = .ok g) :
    formOfJson (.object (ofItem title item)) = .ok (.single title g none) := by
  have titled : title? (ofItem title item) = some (trimmed title) := by
    rw [title?, ofItem, Entries.get?_cons, if_pos rfl, Option.bind_some, Json.text?, Option.bind_some,
      trimmed?_of_shown shown]
  have object : formObject (ofItem title item) = .ok (.object (ofItem (trimmed title) item)) := by
    rw [formObject, titled]
    rfl
  have part : Section.check (.object [("fields", .array [.object item])]) =
      .ok ⟨"", none, [g], []⟩ := by
    have fields : Checked.items Field.check
        (Section.fieldObjects [("fields", .array [.object item])]) = .ok [g] :=
      Checked.items_singleton passed
    simp only [Section.check, Check.object, fields]
    rfl
  have parts : Entries.optional (ofItem (trimmed title) item) (.plain "sections") []
      (Check.list Section.check) = .ok [⟨"", none, [g], []⟩] :=
    congrArg (Checked.under (.key "sections")) (Checked.items_singleton part)
  have form : Form.check (.object (ofItem (trimmed title) item)) = .ok (.single title g none) := by
    simp only [Form.check, Check.object, parts]
    rfl
  simp only [formOfJson, object, form]

/-- An oracle that always answers with the same text. -/
def answering (s : String) : Oracle := fun _ => .text s

/-- A text that reads as a reply. -/
def Answers (s : String) (reply : Entries) : Prop :=
  Json.within? s.toList = .ok (some (.object reply))

theorem Answers.formOfPrompt_eq {s : String} {reply : Entries} (h : Answers s reply)
    (request : String) :
    formOfPrompt (some (answering s)) request = formOfJson (.object reply) := by
  have asked : formOfPrompt (some (answering s)) request = formOfText s := rfl
  have read : Json.within? s.toList = .ok (some (.object reply)) := h
  cases blank : isBlankText s with
  | true =>
      rw [within?_blank blank] at read
      cases read
  | false => simp only [asked, formOfText, blank, Bool.false_eq_true, if_false, read]

end Oracle

section Agreement

open Definition Entries

variable {title : String} {kind : Kind} {item : Entries} {prompt reply : String}

/-- An item of a kind whose attributes are passed on becomes the same blocks, or fails alike, whether
a definition has it or the reply of an oracle. Of a payment it has to be said if it is required. -/
theorem Form.blocks_of_item (shown : isBlankText title = false) (passing : Passing kind item)
    (unhidden : Unhidden item) (paid : kind = .payment → (get? item "required").isSome = true)
    (defines : Defines prompt (Definition.ofItem title item))
    (answers : Oracle.Answers reply (Oracle.ofItem title item)) :
    ∃ defined answered, formOfPrompt? prompt = .ok (some defined) ∧
      (∀ request, Oracle.formOfPrompt (some (.answering reply)) request = .ok answered) ∧
      ∀ attribution, defined.blocks attribution = answered.blocks attribution := by
  obtain ⟨f, g, made, passed, resembles, known, given⟩ := passing.fieldOf? unhidden
  have alike := resembles.alike known passing.passes fun payment => given.mpr (paid payment)
  exact ⟨_, _, defines.formOfPrompt?_eq.trans (formOf?_ofItem shown passing.untitled made),
    fun request => (answers.formOfPrompt_eq request).trans (Oracle.formOfJson_ofItem shown passed),
    blocks_single alike _ _⟩

/-- A payment that does not say whether it is required becomes the blocks of one that is not required
when a definition has it, and those of one that is required when a reply has it. -/
theorem Form.blocks_of_payment (shown : isBlankText title = false) (passing : Passing .payment item)
    (unhidden : Unhidden item) (unsaid : get? item "required" = none)
    (defines : Defines prompt (Definition.ofItem title item))
    (answers : Oracle.Answers reply (Oracle.ofItem title item)) :
    ∃ defined answered g, formOfPrompt? prompt = .ok (some defined) ∧
      (∀ request, Oracle.formOfPrompt (some (.answering reply)) request = .ok answered) ∧
      Field.check (.object item) = .ok g ∧ ∀ attribution,
        defined.blocks attribution = (single title (g.saying false) none).blocks attribution ∧
        answered.blocks attribution = (single title (g.saying true) none).blocks attribution := by
  obtain ⟨f, g, made, passed, optional, required⟩ := passing.payment_unsaid unhidden unsaid
  exact ⟨_, _, g, defines.formOfPrompt?_eq.trans (formOf?_ofItem shown passing.untitled made),
    fun request => (answers.formOfPrompt_eq request).trans (Oracle.formOfJson_ofItem shown passed),
    passed,
    fun attribution => ⟨blocks_single optional _ _ attribution, blocks_single required _ _ attribution⟩⟩

end Agreement

/-! ## Fees and a scale -/

/-- A prompt with a definition of an item. -/
def Definition.textOf (item : Entries) : String := (Json.object (ofItem "Pay" item)).compact

/-- The text of a reply with an item. -/
def Oracle.textOf (item : Entries) : String := (Json.object (ofItem "Pay" item)).compact

/-- A fee that has to be paid. -/
def dueFee : Entries := [
  ("type", .text "payment"), ("label", .text " Entry fee "), ("required", .bool true),
  ("amount", .text "5"), ("show_if", .text " Age > 17")]

/-- A fee of which it is not said whether it has to be paid. -/
def bareFee : Entries := [("type", .text "payment"), ("label", .text "Fee")]

theorem passing_dueFee : Definition.Passing .payment dueFee where
  passes := rfl
  distinct := by decide
  type := rfl
  label := ⟨_, rfl⟩
  required := by
    intro v given
    cases given
    exact ⟨true, rfl⟩
  accepted := ⟨_, rfl⟩

theorem passing_bareFee : Definition.Passing .payment bareFee where
  passes := rfl
  distinct := by decide
  type := rfl
  label := ⟨_, rfl⟩
  required := nofun
  accepted := ⟨_, rfl⟩

theorem defines_dueFee :
    Definition.Defines (Definition.textOf dueFee) (Definition.ofItem "Pay" dueFee) :=
  ⟨(Definition.textOf dueFee).toList, by decide +kernel, by cbv⟩

theorem defines_bareFee :
    Definition.Defines (Definition.textOf bareFee) (Definition.ofItem "Pay" bareFee) :=
  ⟨(Definition.textOf bareFee).toList, by decide +kernel, by cbv⟩

theorem answers_dueFee : Oracle.Answers (Oracle.textOf dueFee) (Oracle.ofItem "Pay" dueFee) := by
  rw [Oracle.Answers]
  cbv

theorem answers_bareFee : Oracle.Answers (Oracle.textOf bareFee) (Oracle.ofItem "Pay" bareFee) := by
  rw [Oracle.Answers]
  cbv

theorem blocks_of_dueFee : ∃ defined answered,
    Definition.formOfPrompt? (Definition.textOf dueFee) = .ok (some defined) ∧
    (∀ request, Oracle.formOfPrompt (some (.answering (Oracle.textOf dueFee))) request =
      .ok answered) ∧
    ∀ attribution, defined.blocks attribution = answered.blocks attribution :=
  Form.blocks_of_item (by decide) passing_dueFee (Entries.unhidden_of_full (by decide))
    (fun _ => rfl) defines_dueFee answers_dueFee

/-- What is said in the bodies of blocks. -/
def said {α : Type} (what : Body → Option α) (outcome : Except Failure (List Block)) : List α :=
  match outcome with
  | .error _ => []
  | .ok blocks => blocks.filterMap fun b => what b.payload.body

/-- Whether a payment is required. -/
def Body.paymentRequired? : Body → Option Bool
  | .payment required .. => some required
  | _ => none

/-- A fee of which it is not said whether it has to be paid need not be paid if a definition has it,
and has to be paid if a reply has it. -/
theorem said_of_bareFee : Definition.Passing .payment bareFee ∧
    Entries.Unhidden bareFee ∧
    Definition.Defines (Definition.textOf bareFee) (Definition.ofItem "Pay" bareFee) ∧
    Oracle.Answers (Oracle.textOf bareFee) (Oracle.ofItem "Pay" bareFee) ∧
    ∃ defined answered,
      Definition.formOfPrompt? (Definition.textOf bareFee) = .ok (some defined) ∧
      (∀ request, Oracle.formOfPrompt (some (.answering (Oracle.textOf bareFee))) request =
        .ok answered) ∧
      said Body.paymentRequired? ((defined.blocks none).run tallies) = [false] ∧
      said Body.paymentRequired? ((answered.blocks none).run tallies) = [true] := by
  have unhidden : Entries.Unhidden bareFee := Entries.unhidden_of_full (by decide)
  obtain ⟨defined, answered, _, made, replied, _⟩ := Form.blocks_of_payment (by decide)
    passing_bareFee unhidden rfl defines_bareFee answers_bareFee
  have optional : (Definition.formOfPrompt? (Definition.textOf bareFee)).toOption.join.map
      (fun form => said Body.paymentRequired? ((form.blocks none).run tallies)) = some [false] := by
    decide +kernel
  have required : (Oracle.formOfPrompt (some (.answering (Oracle.textOf bareFee))) "").toOption.map
      (fun form => said Body.paymentRequired? ((form.blocks none).run tallies)) = some [true] := by
    decide +kernel
  rw [made] at optional
  rw [replied ""] at required
  exact ⟨passing_bareFee, unhidden, defines_bareFee, answers_bareFee, defined, answered, made, replied,
    Option.some.inj optional, Option.some.inj required⟩

/-- A scale whose least value is null under its first spelling. -/
def hiddenLow : Entries := [
  ("type", .text "linear_scale"), ("label", .text "Mood"), ("minValue", .null), ("min_value", .int 3)]

/-- The least value of a scale, if it is a whole number. -/
def Body.lowest? : Body → Option Int
  | .linearScale _ (.int low) .. => some low
  | _ => none

/-- The null hides the value under the second spelling in a reply, but not in a definition. -/
theorem said_of_hiddenLow :
    (Definition.formOfPrompt? (Definition.textOf hiddenLow)).toOption.join.map
      (fun form => said Body.lowest? ((form.blocks none).run tallies)) = some [3] ∧
    (Oracle.formOfPrompt (some (.answering (Oracle.textOf hiddenLow))) "").toOption.map
      (fun form => said Body.lowest? ((form.blocks none).run tallies)) = some [1] := by
  decide +kernel

end PromptForm
