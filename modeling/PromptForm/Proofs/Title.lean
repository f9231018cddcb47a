import PromptForm.Oracle.Basic
import PromptForm.Proofs.Definition
import PromptForm.Proofs.Schema.Checked
import PromptForm.Proofs.Schema.Member
import PromptForm.Proofs.Text.Blank
import PromptForm.Proofs.Text.Case
import PromptForm.Template

/-! # Titles that show

The title that a prompt gives its form is never blank, and neither are those of definitions, of the
forms of an oracle and of stock forms.
-/

namespace PromptForm

theorem isBlankText_of_trimmed? {s shown : String} (h : trimmed? s = some shown) :
    isBlankText shown = false := by
  obtain rfl := trimmed?_eq_some h
  exact isBlankText_trimmed (isEmpty_of_trimmed? h).2

namespace Title

theorem ofRequest?_shown {cs : List Char} {title : String} (h : ofRequest? cs = some title) :
    isBlankText title = false := by
  have capitalised {cs : List Char} (shown : cs.all Text.isBlank = false) :
      isBlankText (String.ofList (Text.titleCase cs)) = false := by
    rw [isBlankText, String.toList_ofList]
    exact Text.titleCase_shown shown
  obtain ⟨⟨qualified, subject⟩, _, made⟩ := Option.bind_eq_some_iff.mp h
  simp only at made
  split at made
  · split at made
    · cases made
    · cases made
      refine capitalised ?_
      rw [List.all_append]
      exact Bool.and_false _
  · rename_i filled
    cases made
    refine capitalised (Bool.eq_false_iff.mpr fun blank => filled ?_)
    exact Text.trim_of_blank blank

/-- A prompt gives its form a title that shows. -/
theorem ofPrompt_shown (prompt : String) : isBlankText (ofPrompt prompt) = false := by
  rw [ofPrompt]
  cases request : ofRequest? prompt.toList with
  | some title => exact ofRequest?_shown request
  | none =>
      cases quote : ofQuote? prompt.toList with
      | some title =>
          obtain ⟨inner, _, made⟩ := Option.bind_eq_some_iff.mp quote
          exact isBlankText_of_trimmed? made
      | none => exact (by decide : isBlankText default = false)

end Title

namespace Template

theorem stableChoice_mem (prompt : String) {choices : List String} (some_choice : choices ≠ []) :
    stableChoice prompt choices ∈ choices := by
  have inside : Digest.ofText prompt % choices.length < choices.length :=
    Nat.mod_lt _ (List.length_pos_iff.mpr some_choice)
  rw [stableChoice, List.getD_eq_getElem?_getD, List.getElem?_eq_getElem inside]
  exact List.getElem_mem inside

/-- The title of a stock form shows. -/
theorem title_shown {prompt : String} {form : Form} (h : match? prompt = some form) :
    isBlankText form.title = false := by
  have titles : ∀ title ∈ bugReportTitles, isBlankText title = false := by
    decide
  simp only [match?] at h
  split at h
  · obtain rfl := Option.some.inj h
    have title : (bugReport prompt).title = stableChoice prompt bugReportTitles := rfl
    rw [title]
    exact titles _ (stableChoice_mem prompt (List.cons_ne_nil _ _))
  · split at h
    · obtain rfl := Option.some.inj h
      have title : feedback.title = "Customer Feedback" := rfl
      rw [title]
      decide
    · cases h

end Template

namespace Definition

theorem cleanText?_shown {v? : Option Json} {s : String} (h : cleanText? v? = some s) :
    isBlankText s = false := by
  unfold cleanText? at h
  split at h
  · exact isBlankText_of_trimmed? h
  · cases h

theorem title_addAll {s s' : Items} {items : List Json}
    (shown : ∀ title, s.title = some title → isBlankText title = false)
    (h : s.addAll items = .ok s') : ∀ title, s'.title = some title → isBlankText title = false := by
  induction items generalizing s with
  | nil =>
      cases h
      exact shown
  | cons v rest ih =>
      cases v with
      | object item =>
          simp only [Items.addAll] at h
          split at h
          · refine ih (fun title found => ?_) h
            cases given : s.title with
            | some first =>
                obtain rfl : first = title := by simpa [given] using found
                exact shown first given
            | none =>
                simp only [given] at found
                exact cleanText?_shown found
          · split at h
            · cases h
            · rename_i field _
              exact ih (s := ⟨s.title, s.fields ++ field.toList⟩) shown h
      | null | bool | int | double | text | array =>
          simp only [Items.addAll] at h
          exact ih shown h

/-- The title of a definition shows. -/
theorem title_shown {prompt : String} {form : Form} (h : formOfPrompt? prompt = .ok (some form)) :
    isBlankText form.title = false := by
  obtain ⟨definition, items, -, added, title, -⟩ := items_of_formOfPrompt? h
  rw [title]
  cases given : items.title with
  | none => exact (by decide : isBlankText Title.default = false)
  | some title => exact title_addAll (fun _ clean => cleanText?_shown clean) added title given

end Definition

/-- A form that passed its check has the title of its object. -/
theorem Form.title_of_check {entries : Entries} {title : String}
    (given : Entries.get? entries "title" = some (.text title)) :
    (Form.check (.object entries)).Promises fun form => form.title = title := by
  have titled : (Entries.require entries (.plain "title") Check.text).Promises (· = title) := by
    rw [Entries.require, Entries.member?_plain, given]
    refine Checked.promises_under fun s passed => ?_
    cases passed
    rfl
  refine Checked.promises_seq (Checked.promises_seq (Checked.promises_seq
    (Checked.promises_seq ?_)))
  refine Checked.promises_seq_of titled (Checked.promises_pure ?_)
  intro _ same _ _ _ _
  exact same

namespace Oracle

/-- A form that an oracle gives is the object of its reply, with the title trimmed, that passed its
check. -/
theorem checked_of_formOfPrompt {oracle? : Option Oracle} {prompt : String} {form : Form}
    (h : formOfPrompt oracle? prompt = .ok form) : ∃ (entries : Entries) (object : Json),
      formObject entries = .ok object ∧ Form.check object = .ok form := by
  have of_json {v : Json} (h : formOfJson v = .ok form) : ∃ (entries : Entries) (object : Json),
      formObject entries = .ok object ∧ Form.check object = .ok form := by
    unfold formOfJson at h
    split at h
    · split at h
      · cases h
      · rename_i entries _ object made
        split at h
        · rename_i passed
          cases h
          exact ⟨entries, object, made, passed⟩
        · cases h
        · cases h
    · cases h
  have of_text {s : String} (h : formOfText s = .ok form) :
      ∃ (entries : Entries) (object : Json), formObject entries = .ok object ∧
        Form.check object = .ok form := by
    unfold formOfText at h
    split at h
    · cases h
    · split at h
      · cases h
      · cases h
      · exact of_json h
  unfold formOfPrompt at h
  split at h
  · cases h
  · rename_i oracle
    unfold formOfReply at h
    split at h
    · exact of_text h
    all_goals cases h

/-- The title of a form that an oracle gives shows. -/
theorem title_shown {oracle? : Option Oracle} {prompt : String} {form : Form}
    (h : formOfPrompt oracle? prompt = .ok form) : isBlankText form.title = false := by
  obtain ⟨entries, object, made, passed⟩ := checked_of_formOfPrompt h
  simp only [formObject] at made
  split at made
  · cases made
  · cases made
  · rename_i title sections titled _
    cases made
    have given : Entries.get? (Entries.put "sections" (.array (sections.filter
        fun v => v.entries?.isSome)) (Entries.put "title" (.text title) entries)) "title" =
          some (.text title) := by
      rw [Entries.get?_put, if_neg (by decide), Entries.get?_put, if_pos rfl]
    rw [Form.title_of_check given form passed]
    obtain ⟨s, _, shown⟩ := Option.bind_eq_some_iff.mp titled
    exact isBlankText_of_trimmed? shown
  · cases made

end Oracle

end PromptForm
