import Mathlib.Data.List.TakeWhile
import PromptForm.Oracle.Basic
import PromptForm.Proofs.Definition
import PromptForm.Proofs.Schema.Member

/-! # What an oracle can do to compiling

An oracle gives a form or a fault, whatever it replies and however it breaks, unless the text of its
reply breaks off the reading: it has too many levels, or a field in it has an infinite number where
a whole one is needed.
-/

namespace PromptForm

theorem Json.entries?_isSome {v : Json} (h : v.entries?.isSome = true) :
    ∃ entries, v = .object entries := by
  cases v with
  | object entries => exact ⟨entries, rfl⟩
  | null | bool | int | double | text | array => cases h

/-! ## Checks that finish -/

theorem Field.check_finishes_iff (item : Entries) :
    (Field.check (.object item)).Finishes ↔ Coercion.fault? item ≠ some .infinity :=
  not_congr (Field.check_overflow_iff item)

theorem Section.mem_fieldObjects {part : Entries} {v : Json} (h : v ∈ fieldObjects part) :
    ∃ item, v = .object item := by
  simp only [fieldObjects] at h
  split at h
  · exact Json.entries?_isSome (List.mem_filter.mp h).2
  · cases h

theorem Section.check_finishes_iff (part : Entries) :
    (Section.check (.object part)).Finishes ↔
      ∀ item, .object item ∈ fieldObjects part → Coercion.fault? item ≠ some .infinity := by
  have fields : (∀ v ∈ fieldObjects part, (Field.check v).Finishes) ↔
      ∀ item, .object item ∈ fieldObjects part → Coercion.fault? item ≠ some .infinity := by
    constructor
    · exact fun h item listed => (Field.check_finishes_iff item).mp (h _ listed)
    · intro h v listed
      obtain ⟨item, rfl⟩ := mem_fieldObjects listed
      exact (Field.check_finishes_iff item).mpr (h item listed)
  simp only [Section.check, Check.object, Checked.finishes_seq_iff, Checked.finishes_under_iff,
    Checked.finishes_items_iff, fields, Checked.finishes_pure, Check.finishes_text, true_and,
    and_true, Entries.finishes_maybe Check.finishes_text]

theorem Settings.check_finishes (v : Json) : (Settings.check v).Finishes := by
  cases v with
  | object entries =>
      simp only [Settings.check, Check.object, Checked.finishes_seq_iff, Checked.finishes_pure,
        Entries.finishes_maybe Check.finishes_text, Entries.finishes_maybe Check.finishes_flag,
        and_self]
  | null | bool | int | double | text | array =>
      intro overflow
      cases overflow

theorem Form.check_finishes_iff (entries : Entries) :
    (Form.check (.object entries)).Finishes ↔
      (Entries.optional entries (.plain "sections") [] (Check.list Section.check)).Finishes := by
  have title : (Entries.require entries (.plain "title") Check.text).Finishes := by
    simp only [Entries.require]
    split
    · exact Checked.finishes_under (Check.finishes_text _)
    · exact nofun
  simp only [Form.check, Check.object, Checked.finishes_seq_iff, Checked.finishes_pure, title,
    true_and, and_true, Entries.finishes_maybe Check.finishes_text,
    Entries.finishes_maybe Settings.check_finishes]

/-! ## Replies that break off the reading -/

namespace Oracle

/-- The object of a reply has a section in which there is a field. -/
def HasField (reply item : Entries) : Prop :=
  ∃ sections part, Entries.get? reply "sections" = some (.array sections) ∧
    .object part ∈ sections ∧ .object item ∈ Section.fieldObjects part

/-- A text that is read neither as a form nor as none. -/
inductive Breaking (s : String) : Prop
  /-- The JSON in the text has too many levels. -/
  | nested {e : TooNested} : Json.within? s.toList = .error e → Breaking s
  /-- The text has a title and a list of sections, and a field with an infinite number where a whole
  one is needed. -/
  | infinite {reply item : Entries} : Json.within? s.toList = .ok (some (.object reply)) →
      (title? reply).isSome = true → HasField reply item →
      Coercion.fault? item = some .infinity → Breaking s

theorem check_formObject {reply : Entries} {object : Json} (h : formObject reply = .ok object) :
    (Form.check object).Finishes ↔
      ∀ item, HasField reply item → Coercion.fault? item ≠ some .infinity := by
  simp only [formObject] at h
  split at h
  · cases h
  · cases h
  · rename_i title sections _ listed
    cases h
    rw [Form.check_finishes_iff, Entries.optional, Entries.member?_plain, Entries.get?_put,
      if_pos rfl]
    simp only [Option.map_some, Checked.finishes_under_iff, Check.list, Checked.finishes_items_iff]
    constructor
    · rintro h item ⟨sections', part, listed', among, field⟩
      rw [listed] at listed'
      cases listed'
      have kept : Json.object part ∈ sections.filter fun v => v.entries?.isSome :=
        List.mem_filter.mpr ⟨among, rfl⟩
      exact (Section.check_finishes_iff part).mp (h _ kept) item field
    · intro h v kept
      obtain ⟨among, object⟩ := List.mem_filter.mp kept
      obtain ⟨part, rfl⟩ := Json.entries?_isSome object
      exact (Section.check_finishes_iff part).mpr fun item field =>
        h item ⟨sections, part, listed, among, field⟩
  · cases h

theorem formObject_ok_iff (reply : Entries) :
    (∃ object, formObject reply = .ok object) ↔
      (title? reply).isSome = true ∧
        ∃ sections, Entries.get? reply "sections" = some (.array sections) := by
  simp only [formObject]
  cases title? reply with
  | none => simp
  | some title =>
      cases Entries.get? reply "sections" with
      | none => simp
      | some v => cases v <;> simp

/-- What comes of a reply is a form or a fault. -/
def Answered (x : Except Breakdown Form) : Prop :=
  (∃ form, x = .ok form) ∨ ∃ f, x = .error (.fault f)

theorem formOfJson_answered_iff (reply : Entries) :
    Answered (formOfJson (.object reply)) ↔ ((title? reply).isSome = true →
      ∀ item, HasField reply item → Coercion.fault? item ≠ some .infinity) := by
  cases shaped : formObject reply with
  | error reason =>
      refine iff_of_true (.inr ⟨.unfit reason, by simp only [formOfJson, shaped]⟩) ?_
      rintro titled item ⟨sections, _, listed, _⟩
      obtain ⟨object, made⟩ := (formObject_ok_iff reply).mpr ⟨titled, sections, listed⟩
      rw [shaped] at made
      cases made
  | ok object =>
      have titled := ((formObject_ok_iff reply).mp ⟨object, shaped⟩).1
      simp only [titled, true_implies, ← check_formObject shaped, formOfJson, shaped]
      cases Form.check object with
      | overflow => exact iff_of_false (by simp [Answered]) (not_not_intro rfl)
      | ok form => exact iff_of_true (.inl ⟨form, rfl⟩) nofun
      | bad issues => exact iff_of_true (.inr ⟨_, rfl⟩) nofun

theorem within?_blank {s : String} (blank : isBlankText s = true) :
    Json.within? s.toList = .ok none := by
  have nothing : Text.trim s.toList = [] := by
    rw [Text.trim, Text.stripWhere, List.dropWhile_eq_nil_iff.mpr (List.all_eq_true.mp blank)]
    rfl
  simp only [Json.within?, Text.stripFences, nothing]
  rfl

theorem formOfText_answered_iff (s : String) : Answered (formOfText s) ↔ ¬ Breaking s := by
  have broken : Breaking s ↔ (∃ e, Json.within? s.toList = .error e) ∨
      ∃ reply, Json.within? s.toList = .ok (some (.object reply)) ∧
        ¬ Answered (formOfJson (.object reply)) := by
    simp only [formOfJson_answered_iff]
    constructor
    · rintro (nested | ⟨read, titled, field, infinite⟩)
      · exact .inl ⟨_, nested⟩
      · exact .inr ⟨_, read, fun sane => sane titled _ field infinite⟩
    · rintro (⟨e, nested⟩ | ⟨reply, read, insane⟩)
      · exact .nested nested
      · simp only [Classical.not_forall, not_not] at insane
        obtain ⟨titled, item, field, infinite⟩ := insane
        exact .infinite read titled field infinite
  rw [broken, formOfText]
  cases blank : isBlankText s with
  | true => exact iff_of_true (.inr ⟨_, rfl⟩) (by simp [within?_blank blank])
  | false =>
      cases Json.within? s.toList with
      | error e => exact iff_of_false (by simp [Answered]) (by simp)
      | ok found =>
          cases found with
          | none => exact iff_of_true (.inr ⟨_, rfl⟩) (by simp)
          | some v =>
              cases v with
              | object reply => simp
              | null | bool | int | double | text | array =>
                  exact iff_of_true (.inr ⟨_, rfl⟩) (by simp)

/-- An oracle gives a form or a fault, unless it replies with a text that breaks off the reading. -/
theorem formOfPrompt_answered_iff (oracle? : Option Oracle) (prompt : String) :
    Answered (formOfPrompt oracle? prompt) ↔
      ∀ oracle ∈ oracle?, ∀ s, oracle (.ofPrompt prompt) = .text s → ¬ Breaking s := by
  cases oracle? with
  | none => exact iff_of_true (.inr ⟨_, rfl⟩) nofun
  | some oracle =>
      simp only [formOfPrompt, Option.mem_def, Option.some.injEq, forall_eq']
      cases oracle (.ofPrompt prompt) with
      | text s => simp [formOfReply, formOfText_answered_iff]
      | nothing | fault | broken => exact iff_of_true (.inr ⟨_, rfl⟩) nofun

/-- A reply with a heading of an infinite level. -/
def endlessHeading : String :=
  "\x7b\"title\": \"T\", \"sections\": [\x7b\"fields\": [\x7b\"level\": 1e999\x7d]\x7d]\x7d"

/-- The reply gives neither a form nor a fault. -/
theorem formOfPrompt_endlessHeading : formOfPrompt (some fun _ => .text endlessHeading) "x" =
    .error (.failure (.notFinite .infinity)) := by
  have breakdown : (match formOfPrompt (some fun _ => .text endlessHeading) "x" with
      | .error b => some b
      | .ok _ => none) = some (.failure (.notFinite .infinity)) := by
    decide +kernel
  cases outcome : formOfPrompt (some fun _ => .text endlessHeading) "x" with
  | ok form =>
      rw [outcome] at breakdown
      cases breakdown
  | error b =>
      rw [outcome] at breakdown
      cases breakdown
      rfl

end Oracle

end PromptForm
