import PromptForm.Proofs.Outline.Offer

/-! # Shape of the forms of prompts

Fields come from lines, from options to specify, from stock forms and from questions that a prompt
mentions. All of them have a kind and a neat label. Since fields are only ever added at the end of a
section, whatever asks to specify an option stays right behind its question.
-/

namespace PromptForm

/-- A field that asks for consent has to be answered and has something to agree to. -/
def Field.Consenting (f : Field) : Prop :=
  f.kind? = some .consentCheckbox → f.required = true ∧ f.options ≠ []

/-- A field of a known kind, with a label that is not blank and has no white space at its ends, and
with texts for options. -/
structure Field.Presentable (f : Field) : Prop where
  kind : f.kind?.isSome = true
  shown : isBlankText f.label = false
  neat : trimmed f.label = f.label
  listed : Outline.Listed f
  consenting : f.Consenting

namespace Field

variable {f : Field}

theorem Usual.presentable (usual : f.Usual) (neat : trimmed f.label = f.label)
    (listed : Outline.Listed f) (consenting : f.Consenting) : f.Presentable := by
  obtain ⟨kind, known, _⟩ := usual.kind?
  exact ⟨by rw [known]; rfl, usual.label, neat, listed, consenting⟩

theorem consenting_of_kind (kind : Kind) (type : f.type = kind.name)
    (other : kind ≠ .consentCheckbox) : f.Consenting := by
  intro consent
  rw [kind?, type, Kind.ofName?_name] at consent
  exact absurd (Option.some.inj consent) other

end Field

namespace Outline

/-! ## Questions with an option to specify -/

/-- A text is the first option that begins with `Other`, when options are read by `quoted`. -/
def FirstOther (quoted : String → String) (f : Field) (other : String) : Prop :=
  ∃ texts : List String, f.options = texts.map .text ∧
    (texts.map quoted).find? (Builder.beginsWith "other") = some other

/-- The first of some fields is a text field that is shown when a question has an answer. -/
def BeginsSpecifying (f : Field) (other : String) (fields : List Field) : Prop :=
  ∃ next, fields.head? = some next ∧ next.kind? = some .text ∧
    next.showIf = some (f.label ++ " = " ++ other)

/-- A question that lets several options be picked, one of which begins with `Other`, is followed at
once by a text field that is shown for the first of these. -/
def FollowedUp (quoted : String → String) (fields : List Field) : Prop :=
  ∀ before f after other, fields = before ++ f :: after → f.kind? = some .checkboxes →
    FirstOther quoted f other → BeginsSpecifying f other after

namespace FollowedUp

variable {quoted : String → String} {fields more : List Field} {f : Field}

theorem of_plain (plain : ∀ f ∈ fields, f.kind? ≠ some .checkboxes) : FollowedUp quoted fields := by
  intro before f after other split boxes
  exact absurd boxes (plain f (by simp [split]))

theorem cons (h : FollowedUp quoted fields) (here : f.kind? = some .checkboxes →
    ∀ other, FirstOther quoted f other → BeginsSpecifying f other fields) :
    FollowedUp quoted (f :: fields) := by
  intro before g after other split boxes first
  rcases List.cons_eq_append_iff.mp split with ⟨rfl, same⟩ | ⟨front, rfl, later⟩
  · cases same
    exact here boxes other first
  · exact h front g after other later boxes first

theorem append (h : FollowedUp quoted fields) (h' : FollowedUp quoted more) :
    FollowedUp quoted (fields ++ more) := by
  intro before f after other split boxes first
  rcases List.append_eq_append_iff.mp split with ⟨front, rfl, later⟩ | ⟨back, rfl, later⟩
  · exact h' front f after other later boxes first
  · rcases List.cons_eq_append_iff.mp later with ⟨rfl, same⟩ | ⟨inner, rfl, rfl⟩
    · exact h' [] f after other same boxes first
    · obtain ⟨next, head, asks⟩ := h before f inner other rfl boxes first
      exact ⟨next, by rw [List.head?_append, head]; rfl, asks⟩

end FollowedUp

namespace Builder

variable {f : Field} {other : String}

theorem optionText_text (s : String) : optionText (.text s) = trimmed s := by
  simp only [optionText, Json.usableText, Json.truthy, Json.display]
  by_cases empty : s = ""
  · rw [empty]
    rfl
  · simp [empty]

/-- The option that the builder asks to specify. -/
theorem otherOption?_of_first (first : FirstOther trimmed f other) :
    otherOption? f = some other := by
  obtain ⟨texts, options, found⟩ := first
  have read : optionText ∘ Json.text = trimmed := funext optionText_text
  rw [otherOption?, options, List.map_map, read, found]

theorem followedUp_withFollowUp (f : Field) : FollowedUp trimmed (withFollowUp f) := by
  simp only [withFollowUp]
  split
  · refine FollowedUp.cons (FollowedUp.of_plain fun g hg => ?_) fun _ other first => ?_
    · obtain ⟨other, _, rfl⟩ := Option.map_eq_some_iff.mp (Option.mem_toList.mp hg)
      rw [kind?_specifyField]
      decide
    · rw [otherOption?_of_first first]
      exact ⟨specifyField f other, rfl, kind?_specifyField f other, rfl⟩
  · rename_i single
    exact FollowedUp.of_plain fun g hg => List.mem_singleton.mp hg ▸ single

end Builder

/-! ## Fields of lines -/

theorem consenting_commonQuestion {label : String} {f : Field}
    (h : commonQuestion? label = some f) (required : Bool) (given : List Attribute) :
    { f with required := required, given := given }.Consenting := by
  simp only [commonQuestion?] at h
  split at h
  · cases h
    exact Field.consenting_of_kind .multipleChoice rfl (by decide)
  · split at h
    · cases h
      exact Field.consenting_of_kind .dropdown rfl (by decide)
    · cases h

theorem fieldOf_type (kind : Kind) (label : String) (a : Attributes) :
    (fieldOf kind label a).type = kind.name := by
  cases kind <;> try rfl
  all_goals
    simp only [fieldOf]
    split <;> rfl

theorem consenting_fieldOf (kind : Kind) (label : String) (a : Attributes) :
    (fieldOf kind label a).Consenting := by
  by_cases consent : kind = .consentCheckbox
  · subst consent
    refine fun _ => ⟨rfl, ?_⟩
    simp only [fieldOf]
    split
    · exact List.cons_ne_nil _ _
    · rename_i some_option
      simpa using some_option
  · exact Field.consenting_of_kind kind (fieldOf_type kind label a) consent

theorem consenting_of_line {cs : List Char} {f : Field} (h : fieldOfLine cs = .ok (some f)) :
    f.Consenting := by
  cases described_of_line h with
  | consent statement same => exact same ▸ fun _ => ⟨rfl, List.cons_ne_nil _ _⟩
  | common _ asked => exact consenting_commonQuestion asked f.required f.given
  | @labelled label a _ _ same =>
      subst same
      simp only [fieldWith]
      split
      · exact consenting_fieldOf _ label a
      · rename_i found
        exact consenting_commonQuestion found a.required _
      · exact consenting_fieldOf _ label a

theorem presentable_of_line {cs : List Char} {f : Field} (h : fieldOfLine cs = .ok (some f)) :
    f.Presentable :=
  (asked_of_line h).presentable (neat_of_line h) (listed_of_line h) (consenting_of_line h)

/-! ## Sections -/

/-- The fields of a section are presentable and followed up. -/
structure Regular (quoted : String → String) (fields : List Field) : Prop where
  presentable : ∀ f ∈ fields, f.Presentable
  followedUp : FollowedUp quoted fields

theorem Regular.nil {quoted : String → String} : Regular quoted [] :=
  ⟨List.forall_mem_nil _, FollowedUp.of_plain (List.forall_mem_nil _)⟩

theorem Regular.append {quoted : String → String} {fields more : List Field}
    (h : Regular quoted fields) (h' : Regular quoted more) : Regular quoted (fields ++ more) :=
  ⟨List.forall_mem_append.mpr ⟨h.presentable, h'.presentable⟩, h.followedUp.append h'.followedUp⟩

namespace Builder

variable {f : Field}

theorem presentable_dependent (b : Builder) (h : f.Presentable) : (b.dependent f).Presentable := by
  have same (expr : Option String) (given : List Attribute) :
      { f with showIf := expr, given := given }.Presentable :=
    ⟨h.kind, h.shown, h.neat, h.listed, h.consenting⟩
  simp only [dependent]
  split
  · split
    · exact same _ _
    · exact h
  · exact h

theorem neat_specifyField (neat : trimmed f.label = f.label) (other : String) :
    trimmed (specifyField f other).label = (specifyField f other).label := by
  have chars : (specifyField f other).label.toList =
      Text.dropEndWhile (fun c => c == '?' || c == ':') f.label.toList ++
        ": please specify".toList := by
    simp [specifyField, Field.plain, onText]
  have whole : Text.trim f.label.toList = f.label.toList := by
    simpa [trimmed, onText] using congrArg String.toList neat
  rw [trimmed, onText, chars, Text.trim_append_of_prefix whole (Text.dropEndWhile_isPrefix _ _)
    (by decide) (by decide), ← chars, String.ofList_toList]

theorem presentable_specifyField (h : f.Presentable) (other : String) :
    (specifyField f other).Presentable :=
  (usual_specifyField f other).presentable (neat_specifyField h.neat other) ⟨[], rfl⟩
    (Field.consenting_of_kind .text rfl (by decide))

theorem regular_withFollowUp (h : f.Presentable) : Regular trimmed (withFollowUp f) := by
  refine ⟨fun g hg => ?_, followedUp_withFollowUp f⟩
  simp only [withFollowUp] at hg
  split at hg
  · rcases List.mem_cons.mp hg with rfl | asks
    · exact h
    · obtain ⟨other, _, rfl⟩ := Option.map_eq_some_iff.mp (Option.mem_toList.mp asks)
      exact presentable_specifyField h other
  · exact List.mem_singleton.mp hg ▸ h

end Builder

theorem Document.regular_sections {d : Document} {prompt : String} (h : parse prompt = .ok d) :
    ∀ s ∈ d.sections, s.fields ≠ [] ∧ Regular trimmed s.fields := by
  have regular := sections_induction Regular.nil (fun b _ _ _ read holds =>
    holds.append (Builder.regular_withFollowUp
      (b.presentable_dependent (presentable_of_line read)))) h
  intro s hs
  refine ⟨?_, regular s hs⟩
  obtain ⟨draft, filled, rfl⟩ := List.mem_map.mp hs
  simpa using (List.mem_filter.mp filled).2

end Outline

open Outline

/-! ## Questions that are added -/

namespace Enrichment

variable {e : Enrichment}

theorem listed_field (he : e ∈ all) : Listed e.field := by
  simp only [all, List.mem_cons, List.not_mem_nil, or_false] at he
  rcases he with rfl | rfl | rfl | rfl
  · exact ⟨_, rfl⟩
  · exact ⟨_, rfl⟩
  · exact ⟨_, rfl⟩
  · exact ⟨[consentStatement], rfl⟩

theorem regular_field (he : e ∈ all) : Regular trimmed [e.field] := by
  have neat : ∀ e ∈ all, trimmed e.field.label = e.field.label := by decide
  have consenting : ∀ e ∈ all, e.field.kind? = some .consentCheckbox →
      e.field.required = true ∧ e.field.options.isEmpty = false := by decide
  have single : ∀ e ∈ all, e.field.kind? ≠ some .checkboxes := by decide
  refine ⟨List.forall_mem_singleton.mpr ?_,
    FollowedUp.of_plain (List.forall_mem_singleton.mpr (single e he))⟩
  refine (asked_field he).toUsual.presentable (neat e he) (listed_field he) fun asks => ?_
  obtain ⟨required, some_option⟩ := consenting e he asks
  exact ⟨required, fun none_left => by simp [none_left] at some_option⟩

end Enrichment

/-! ## Stock forms -/

namespace Template

/-- Some fields have the kinds and the labels of some rows. -/
def HasRows (rows : List (Kind × String)) (fields : List Field) : Prop :=
  fields.map (fun f => (f.type, f.label)) = rows.map fun row => (row.1.name, row.2)

theorem HasRows.exists_row {rows : List (Kind × String)} {fields : List Field}
    (h : HasRows rows fields) {f : Field} (hf : f ∈ fields) :
    ∃ row ∈ rows, f.kind? = some row.1 ∧ f.label = row.2 := by
  have among := List.mem_map_of_mem (f := fun f => (f.type, f.label)) hf
  rw [h] at among
  obtain ⟨row, hrow, same⟩ := List.mem_map.mp among
  obtain ⟨type, label⟩ := Prod.mk.inj same
  exact ⟨row, hrow, by rw [Field.kind?, ← type, Kind.ofName?_name], label.symm⟩

section Rows

variable {fields : List Field} (rows : List (Kind × String)) (h : HasRows rows fields)
  (usual : ∀ f ∈ fields, f.Usual) (listed : ∀ f ∈ fields, Listed f)

include h usual listed

theorem regular_of_rows (followedUp : FollowedUp trimmed fields)
    (fits : rows ≠ [] ∧ ∀ row ∈ rows, trimmed row.2 = row.2 ∧ row.1 ≠ .consentCheckbox) :
    fields ≠ [] ∧ Regular trimmed fields := by
  refine ⟨fun none_left => ?_, fun f hf => ?_, followedUp⟩
  · rw [HasRows, none_left] at h
    exact fits.1 (List.map_eq_nil_iff.mp h.symm)
  · obtain ⟨row, hrow, kind, label⟩ := h.exists_row hf
    obtain ⟨neat, other⟩ := fits.2 row hrow
    refine (usual f hf).presentable (by rw [label, neat]) (listed f hf) fun asks => ?_
    exact absurd (Option.some.inj (kind.symm.trans asks)) other

theorem regular_of_single_rows (single : ∀ row ∈ rows, row.1 ≠ .checkboxes)
    (fits : rows ≠ [] ∧ ∀ row ∈ rows, trimmed row.2 = row.2 ∧ row.1 ≠ .consentCheckbox) :
    fields ≠ [] ∧ Regular trimmed fields := by
  refine regular_of_rows rows h usual listed (FollowedUp.of_plain fun f hf boxes => ?_) fits
  obtain ⟨row, hrow, kind, _⟩ := h.exists_row hf
  exact single row hrow (Option.some.inj (kind.symm.trans boxes))

end Rows

theorem listed_bugReport (prompt : String) : ∀ f ∈ (bugReport prompt).fields, Listed f := by
  have bare {f : Field} (h : f.options = []) : Listed f := ⟨[], h⟩
  simp only [bugReport, Form.fields, part, List.flatMap_cons, List.flatMap_nil, List.cons_append,
    List.nil_append, List.append_nil, List.forall_mem_cons]
  exact ⟨bare rfl, bare rfl, ⟨_, rfl⟩, bare rfl, ⟨_, rfl⟩, ⟨_, rfl⟩, bare rfl, bare rfl, bare rfl,
    bare rfl, bare rfl, bare rfl, List.forall_mem_nil _⟩

theorem listed_feedback : ∀ f ∈ feedback.fields, Listed f := by
  have bare {f : Field} (h : f.options = []) : Listed f := ⟨[], h⟩
  simp only [feedback, Form.fields, part, List.flatMap_cons, List.flatMap_nil, List.append_nil,
    List.forall_mem_cons]
  exact ⟨bare rfl, bare rfl, bare rfl, bare rfl, bare rfl, ⟨_, rfl⟩, ⟨_, rfl⟩, bare rfl,
    List.forall_mem_nil _⟩

/-- Only the last one of the areas that a bug may affect asks to be specified. -/
theorem eq_other_of_mem_areas {lower option : String} (h : option ∈ areas lower)
    (begins : Builder.beginsWith "other" (trimmed option) = true) : trimmed option = "Other" := by
  have listed : ∀ option ∈ ["UI", "Login & Authentication", "Performance", "Data & Sync"] ++
      extraAreas.map (·.2) ++ ["Other"], Builder.beginsWith "other" (trimmed option) = true →
        trimmed option = "Other" := by
    decide +kernel
  refine listed option ?_ begins
  simp only [areas, List.mem_append, List.mem_map] at h ⊢
  refine h.imp_left fun named => named.imp_right ?_
  exact fun ⟨row, hrow, same⟩ => ⟨row, List.mem_of_mem_filter hrow, same⟩

/-- The areas are followed by the field that asks to specify another one. -/
theorem followedUp_areas (lower : String) : FollowedUp trimmed [
    { Field.plain .checkboxes "Affected area" with options := (areas lower).map .text },
    { Field.plain .text "Please specify the affected area" with
      showIf := some "Affected area = Other" }] := by
  refine FollowedUp.cons (FollowedUp.of_plain (by decide)) fun _ other first => ?_
  obtain ⟨texts, options, found⟩ := first
  obtain rfl : areas lower = texts := List.map_injective_iff.mpr (fun _ _ => Json.text.inj) options
  obtain ⟨option, among, rfl⟩ := List.mem_map.mp (List.mem_of_find?_eq_some found)
  rw [eq_other_of_mem_areas among (List.find?_some found)]
  exact ⟨_, rfl, Kind.ofName?_name .text, rfl⟩

theorem regular_bugReport (prompt : String) :
    ∀ s ∈ (bugReport prompt).sections, s.fields ≠ [] ∧ Regular trimmed s.fields := by
  intro s hs
  have usual : ∀ f ∈ s.fields, f.Usual := fun f hf =>
    usual_bugReport prompt f (List.mem_flatMap.mpr ⟨s, hs, hf⟩)
  have listed : ∀ f ∈ s.fields, Listed f := fun f hf =>
    listed_bugReport prompt f (List.mem_flatMap.mpr ⟨s, hs, hf⟩)
  simp only [bugReport, List.mem_cons, List.not_mem_nil, or_false] at hs
  rcases hs with rfl | rfl | rfl | rfl
  · exact regular_of_single_rows [(.text, "Your Name"), (.email, "Email"),
      (.multipleChoice, "Preferred contact method")] rfl usual listed (by decide) (by decide)
  · have front : FollowedUp trimmed [prompting .text "Bug title" "One-line summary" true,
        severityField] := FollowedUp.of_plain (by decide)
    exact regular_of_rows [(.text, "Bug title"), (.dropdown, "Severity"),
      (.checkboxes, "Affected area"), (.text, "Please specify the affected area")] rfl usual listed
      (front.append (followedUp_areas _)) (by decide)
  · exact regular_of_single_rows [(.textarea, "Steps to reproduce"),
      (.textarea, "Expected behavior"), (.textarea, "Actual behavior")] rfl usual listed
      (by decide) (by decide)
  · exact regular_of_single_rows [(.text, "Browser / OS / App version"),
      (.fileUpload, "Screenshots or recordings")] rfl usual listed (by decide) (by decide)

theorem regular_feedback :
    ∀ s ∈ feedback.sections, s.fields ≠ [] ∧ Regular trimmed s.fields := by
  intro s hs
  have usual : ∀ f ∈ s.fields, f.Usual := fun f hf =>
    usual_feedback f (List.mem_flatMap.mpr ⟨s, hs, hf⟩)
  have listed : ∀ f ∈ s.fields, Listed f := fun f hf =>
    listed_feedback f (List.mem_flatMap.mpr ⟨s, hs, hf⟩)
  obtain rfl := List.mem_singleton.mp hs
  exact regular_of_single_rows [(.text, "Full Name"), (.email, "Email"), (.text, "Country"),
    (.rating, satisfactionLabel), (.textarea, "Please tell us what went wrong"),
    (.multipleChoice, "What did you like the most?"), (.multipleChoice, recommendLabel),
    (.email, "Friend's email for referral")] rfl usual listed (by decide) (by decide)

/-- The sections of stock forms have fields, which are regular. -/
theorem regular_match? {prompt : String} {form : Form} (h : match? prompt = some form) :
    form.sections ≠ [] ∧ ∀ s ∈ form.sections, s.fields ≠ [] ∧ Regular trimmed s.fields := by
  simp only [match?] at h
  split at h
  · cases h
    exact ⟨List.cons_ne_nil _ _, regular_bugReport prompt⟩
  · split at h
    · cases h
      exact ⟨List.cons_ne_nil _ _, regular_feedback⟩
    · cases h

end Template

/-! ## Forms of prompts -/

/-- A form has sections, each of which has fields, and these are presentable and followed up. -/
structure Form.Shapely (quoted : String → String) (form : Form) : Prop where
  filled : form.sections ≠ []
  sections : ∀ s ∈ form.sections, s.fields ≠ [] ∧ Regular quoted s.fields

theorem Form.Shapely.enrich {form : Form} (h : form.Shapely trimmed) (prompt : String) :
    (form.enrich prompt).Shapely trimmed where
  filled := by
    rw [← List.length_pos_iff, length_sections_enrich, List.length_pos_iff]
    exact h.filled
  sections := by
    refine forall_sections_enrich (P := fun fields => fields ≠ [] ∧ Regular trimmed fields) prompt
      (fun e he fields holds => ⟨?_, holds.2.append (Enrichment.regular_field he)⟩) h.sections
    exact List.append_ne_nil_of_left_ne_nil holds.1 _

/-- Conditions quote options as they are when none has white space at its ends. -/
theorem Form.Shapely.exact {form : Form} (h : form.Shapely trimmed)
    (neat : ∀ f ∈ form.fields, ∀ option, .text option ∈ f.options → trimmed option = option) :
    form.Shapely id := by
  refine ⟨h.filled, fun s hs => ⟨(h.sections s hs).1, (h.sections s hs).2.presentable, ?_⟩⟩
  intro before f after other split boxes first
  refine (h.sections s hs).2.followedUp before f after other split boxes ?_
  obtain ⟨texts, options, found⟩ := first
  have own : f ∈ form.fields := List.mem_flatMap.mpr ⟨s, hs, by simp [split]⟩
  have same : texts.map trimmed = texts.map id := List.map_congr_left fun option among =>
    neat f own option (options ▸ List.mem_map_of_mem among)
  exact ⟨texts, options, by rw [same, found]⟩

namespace Outline

/-- The form of a prompt has sections with fields. Each field is of a known kind and has a label
without white space at its ends, and asking for consent comes with something to agree to. Questions
with an option that begins with `Other` are followed by a text field that is shown for it, whose
condition quotes the option without the white space at its ends. -/
theorem shapely_formOfPrompt? {prompt : String} {form : Form}
    (h : formOfPrompt? prompt = .ok (some form)) : form.Shapely trimmed := by
  simp only [formOfPrompt?] at h
  cases parsed : Document.parse prompt with
  | error e =>
      rw [parsed] at h
      cases h
  | ok d =>
      rw [parsed] at h
      obtain ⟨bare, rfl, ⟨own, some_left⟩ | ⟨_, stock⟩⟩ := Document.form?_eq_some (Except.ok.inj h)
      · have shapely : bare.Shapely trimmed :=
          ⟨own ▸ some_left, own ▸ Document.regular_sections parsed⟩
        exact shapely.enrich prompt
      · obtain ⟨filled, sections⟩ := Template.regular_match? stock
        exact Form.Shapely.enrich ⟨filled, sections⟩ prompt

/-- What is shown of a field. -/
structure Shown where
  kind : Option Kind
  label : String
  options : List String
  condition : Option String
  deriving DecidableEq

def Shown.ofField (f : Field) : Shown := ⟨f.kind?, f.label, f.options.map Json.display, f.showIf⟩

def shown? (prompt : String) : Option (List (List Shown)) :=
  (formOfPrompt? prompt).toOption.join.map fun form => form.sections.map fun s =>
    s.fields.map Shown.ofField

theorem shown?_eq_some {prompt : String} {entries : List Shown} (h : shown? prompt = some [entries]) :
    ∃ form s, formOfPrompt? prompt = .ok (some form) ∧ form.sections = [s] ∧
      s.fields.map Shown.ofField = entries := by
  obtain ⟨form, made, sections⟩ := Option.map_eq_some_iff.mp h
  obtain ⟨s, same, rfl⟩ := List.map_eq_singleton_iff.mp sections
  cases given : formOfPrompt? prompt with
  | error e => simp [given, Except.toOption] at made
  | ok found =>
      rw [given] at made
      exact ⟨form, s, congrArg Except.ok made, same, rfl⟩

/-- An outline of a question with an option to specify, in quotes. -/
def daysOutline (option : String) : String :=
  "Section: A\n- Days (checkboxes: Mon, \"" ++ option ++ "\")"

theorem shapely_daysOutline : ∃ form s, formOfPrompt? (daysOutline "Other") = .ok (some form) ∧
    form.sections = [s] ∧ s.fields.map Field.showIf = [none, some "Days = Other"] ∧
    form.Shapely trimmed := by
  obtain ⟨form, s, made, same, shown⟩ := shown?_eq_some
    (show shown? (daysOutline "Other") = some [[
      ⟨some .checkboxes, "Days", ["Mon", "Other"], none⟩,
      ⟨some .text, "Days: please specify", [], some "Days = Other"⟩]] by decide +kernel)
  have conditions := congrArg (List.map Shown.condition) shown
  rw [List.map_map] at conditions
  exact ⟨form, s, made, same, conditions, shapely_formOfPrompt? made⟩

/-- A tab that quotes keep at the end of an option is missing in the condition. -/
theorem not_shapely_daysOutline : ∃ form, formOfPrompt? (daysOutline "Other\t") = .ok (some form) ∧
    ¬ form.Shapely id := by
  obtain ⟨form, s, made, same, shown⟩ := shown?_eq_some
    (show shown? (daysOutline "Other\t") = some [[
      ⟨some .checkboxes, "Days", ["Mon", "Other\t"], none⟩,
      ⟨some .text, "Days: please specify", [], some "Days = Other"⟩]] by decide +kernel)
  refine ⟨form, made, fun shapely => ?_⟩
  have regular := (shapely.sections s (by simp [same])).2
  obtain ⟨days, rest, fields, at_days, others⟩ := List.map_eq_cons_iff.mp shown
  obtain ⟨specify, rfl, at_specify⟩ := List.map_eq_singleton_iff.mp others
  obtain ⟨texts, options⟩ := (regular.presentable days (by simp [fields])).listed
  have offered : texts = ["Mon", "Other\t"] := by
    have read : Json.display ∘ Json.text = id := rfl
    have displayed : days.options.map Json.display = ["Mon", "Other\t"] :=
      congrArg Shown.options at_days
    rwa [options, List.map_map, read, List.map_id] at displayed
  have first : FirstOther id days "Other\t" := ⟨texts, options, by rw [offered]; decide⟩
  obtain ⟨next, head, _, asks⟩ := regular.followedUp [] days [specify] "Other\t" fields
    (congrArg Shown.kind at_days) first
  obtain rfl := Option.some.inj head
  have label : days.label = "Days" := congrArg Shown.label at_days
  have condition : specify.showIf = some "Days = Other" := congrArg Shown.condition at_specify
  rw [condition, label] at asks
  exact absurd asks (by decide)

end Outline

end PromptForm
