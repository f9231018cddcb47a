import PromptForm.Enrichment
import PromptForm.Proofs.Outline.Line

/-! # Fields of enriched forms

Enriching a form weaves questions in between its fields and changes nothing else about them. No
field of the form has the label of such a question. The fields of stock forms are usual ones.
-/

namespace PromptForm

/-- The members of a list, in order, with others woven in that are `extra`. -/
inductive Woven {α : Type} (extra : α → Prop) : List α → List α → Prop
  | nil : Woven extra [] []
  | keep {a : α} {own all : List α} : Woven extra own all → Woven extra (a :: own) (a :: all)
  | weave {a : α} {own all : List α} : extra a → Woven extra own all → Woven extra own (a :: all)

namespace Woven

variable {α : Type} {extra : α → Prop} {own all : List α}

theorem refl (own : List α) : Woven extra own own := by
  induction own with
  | nil => exact .nil
  | cons a own ih => exact ih.keep

theorem insert {before after : List α} {a : α} (h : Woven extra own (before ++ after))
    (new : extra a) : Woven extra own (before ++ a :: after) := by
  induction before generalizing own with
  | nil => exact .weave new h
  | cons b before ih =>
      cases h with
      | keep h => exact (ih h).keep
      | weave other h => exact .weave other (ih h)

theorem mem_of_own (h : Woven extra own all) {a : α} (ha : a ∈ own) : a ∈ all := by
  induction h with
  | nil => exact ha
  | keep _ ih =>
      rcases List.mem_cons.mp ha with rfl | ha
      · exact List.mem_cons_self
      · exact List.mem_cons_of_mem _ (ih ha)
  | weave _ _ ih => exact List.mem_cons_of_mem _ (ih ha)

theorem own_or_extra (h : Woven extra own all) {a : α} (ha : a ∈ all) : a ∈ own ∨ extra a := by
  induction h with
  | nil => exact .inl ha
  | keep _ ih =>
      rcases List.mem_cons.mp ha with rfl | ha
      · exact .inl List.mem_cons_self
      · exact (ih ha).imp_left (List.mem_cons_of_mem _)
  | weave new _ ih =>
      rcases List.mem_cons.mp ha with rfl | ha
      · exact .inr new
      · exact ih ha

/-- What is before a member that is no extra one is woven from what is before it in the list. -/
theorem split (h : Woven extra own all) {before after : List α} {a : α}
    (at_a : all = before ++ a :: after) : extra a ∨ ∃ before' after', own = before' ++ a :: after' ∧
      Woven extra before' before ∧ Woven extra after' after := by
  induction before generalizing own all with
  | nil =>
      cases h with
      | nil => cases at_a
      | keep h =>
          cases at_a
          exact .inr ⟨[], _, rfl, .nil, h⟩
      | weave new _ =>
          cases at_a
          exact .inl new
  | cons b before ih =>
      cases h with
      | nil => cases at_a
      | keep h =>
          cases at_a
          rcases ih h rfl with new | ⟨before', after', rfl, front, back⟩
          · exact .inl new
          · exact .inr ⟨b :: before', after', rfl, front.keep, back⟩
      | weave new h =>
          cases at_a
          rcases ih h rfl with new' | ⟨before', after', rfl, front, back⟩
          · exact .inl new'
          · exact .inr ⟨before', after', rfl, .weave new front, back⟩

end Woven

namespace Enrichment

open PromptForm.Field

/-- A question that depends on no field and shares its label with none of some fields. -/
def New (own : List Field) (f : Field) : Prop := f.Asked ∧ ∀ g ∈ own, g.label ≠ f.label

theorem asked_field {e : Enrichment} (h : e ∈ all) : e.field.Asked := by
  simp only [all, List.mem_cons, List.not_mem_nil, or_false] at h
  rcases h with rfl | rfl | rfl | rfl
  · exact { asked_plain .dropdown "Severity" rfl (by decide) with }
  · exact { asked_plain .multipleChoice "Preferred contact method" rfl (by decide) with }
  · exact { asked_plain .dropdown "Best time of day to reach you" rfl (by decide) with }
  · exact Outline.asked_consentField []

/-- A form with a field that is labelled like the question has the question. -/
theorem isIn_of_label {e : Enrichment} (he : e ∈ all) {form : Form} {g : Field}
    (hg : g ∈ form.fields) (same : g.label = e.field.label) : e.isIn form = true := by
  have named : ∀ e ∈ all, (((e.present.filter (!·.isEmpty)).map lowered).any fun needle =>
      containsText needle (lowered e.field.label)) = true := by
    decide +kernel
  have labeled : form.hasFieldLabeled e.present = true :=
    List.any_eq_true.mpr ⟨g, hg, by rw [same]; exact named e he⟩
  rw [isIn, labeled, Bool.true_or]

theorem fields_addTo (f : Field) (secs : List Section) (i : Nat) :
    (addTo f secs i).flatMap Section.fields = secs.flatMap Section.fields ∨
      ∃ before after, secs.flatMap Section.fields = before ++ after ∧
        (addTo f secs i).flatMap Section.fields = before ++ f :: after := by
  induction secs generalizing i with
  | nil => exact .inl (by rw [addTo, List.modify_nil])
  | cons s rest ih =>
      cases i with
      | zero =>
          refine .inr ⟨s.fields, rest.flatMap Section.fields, rfl, ?_⟩
          simp [addTo]
      | succ i =>
          have step : addTo f (s :: rest) (i + 1) = s :: addTo f rest i := by
            rw [addTo, List.modify_succ_cons, addTo]
          rw [step, List.flatMap_cons, List.flatMap_cons]
          rcases ih i with same | ⟨before, after, split, added⟩
          · exact .inl (by rw [same])
          · refine .inr ⟨s.fields ++ before, after, ?_, ?_⟩
            · rw [split, List.append_assoc]
            · rw [added, List.append_assoc]

theorem apply_woven {own : List Field} {form : Form} (h : Woven (New own) own form.fields)
    {e : Enrichment} (he : e ∈ all) (lower : String) :
    Woven (New own) own (e.apply lower form).fields := by
  simp only [apply]
  split
  · rename_i wanted
    have absent : e.isIn form = false := by
      simpa using (Bool.and_eq_true_iff.mp wanted).2
    have new : New own e.field := by
      refine ⟨asked_field he, fun g hg same => ?_⟩
      rw [isIn_of_label he (h.mem_of_own hg) same] at absent
      cases absent
    rcases fields_addTo e.field form.sections (e.place (form.sections.map (·.title))) with
      same | ⟨before, after, split, added⟩
    · rw [Form.fields, same]
      exact h
    · rw [Form.fields, added]
      rw [Form.fields, split] at h
      exact h.insert new
  · exact h

end Enrichment

/-- What holds of a form and is kept by every question that is added holds of the enriched form. -/
theorem Form.enrich_induction {P : Form → Prop} {form : Form} (prompt : String) (h : P form)
    (step : ∀ e ∈ Enrichment.all, ∀ form, P form → P (e.apply (lowered prompt) form)) :
    P (form.enrich prompt) := by
  have run (es : List Enrichment) (listed : ∀ e ∈ es, e ∈ Enrichment.all) (form : Form)
      (h : P form) : P (es.foldl (Enrichment.apply (lowered prompt)) form) := by
    induction es generalizing form with
    | nil => exact h
    | cons e es ih =>
        exact ih (fun e' he' => listed e' (List.mem_cons_of_mem _ he')) _
          (step e (listed e List.mem_cons_self) form h)
  rw [Form.enrich]
  split
  · exact h
  · exact run _ (fun e he => he) form h

/-- Enriching a form weaves new questions in between its fields. -/
theorem Form.enrich_woven (form : Form) (prompt : String) :
    Woven (Enrichment.New form.fields) form.fields (form.enrich prompt).fields :=
  enrich_induction (P := fun form' => Woven (Enrichment.New form.fields) form.fields form'.fields)
    prompt (Woven.refl _) fun _ he _ h => Enrichment.apply_woven h he _

/-! ## Sections of enriched forms -/

theorem Enrichment.forall_sections_addTo {P : List Field → Prop} {f : Field}
    (keeps : ∀ fields, P fields → P (fields ++ [f])) {secs : List Section}
    (h : ∀ s ∈ secs, P s.fields) (i : Nat) : ∀ s ∈ addTo f secs i, P s.fields := by
  induction secs generalizing i with
  | nil =>
      rw [addTo, List.modify_nil]
      exact List.forall_mem_nil _
  | cons first rest ih =>
      obtain ⟨here, others⟩ := List.forall_mem_cons.mp h
      cases i with
      | zero => exact List.forall_mem_cons.mpr ⟨keeps first.fields here, others⟩
      | succ i => exact List.forall_mem_cons.mpr ⟨here, ih others i⟩

/-- What holds of the fields of every section, and is kept by the questions that are added at the
end of one, holds of every section of the enriched form. -/
theorem Form.forall_sections_enrich {P : List Field → Prop} {form : Form} (prompt : String)
    (keeps : ∀ e ∈ Enrichment.all, ∀ fields, P fields → P (fields ++ [e.field]))
    (h : ∀ s ∈ form.sections, P s.fields) : ∀ s ∈ (form.enrich prompt).sections, P s.fields := by
  refine enrich_induction (P := fun form => ∀ s ∈ form.sections, P s.fields) prompt h ?_
  intro e he form h
  rw [Enrichment.apply]
  split
  · exact Enrichment.forall_sections_addTo (keeps e he) h _
  · exact h

theorem Form.length_sections_enrich (form : Form) (prompt : String) :
    (form.enrich prompt).sections.length = form.sections.length := by
  refine enrich_induction (P := fun form' => form'.sections.length = form.sections.length) prompt
    rfl ?_
  intro e _ form' same
  rw [Enrichment.apply]
  split
  · rw [← same]
    exact List.length_modify ..
  · exact same

/-! ## Forms that have every question -/

namespace Enrichment

/-- A form with all the questions that a lowercased prompt mentions. -/
def Complete (lower : String) (form : Form) (es : List Enrichment) : Prop :=
  ∀ e ∈ es, containsText e.trigger lower = true → e.isIn form = true

theorem place_lt (e : Enrichment) {titles : List String} (h : titles ≠ []) :
    e.place titles < titles.length := by
  have some_title := List.length_pos_of_ne_nil h
  rw [place]
  cases found : titles.findIdx? fun title =>
      e.places.any fun word => containsText word (lowered title) with
  | none =>
      rw [Option.getD_none]
      split <;> omega
  | some i =>
      rw [Option.getD_some]
      exact (List.findIdx?_eq_some_iff_getElem.mp found).1

theorem length_fields_addTo (f : Field) {secs : List Section} {i : Nat} (h : i < secs.length) :
    ((addTo f secs i).flatMap Section.fields).length =
      (secs.flatMap Section.fields).length + 1 := by
  induction secs generalizing i with
  | nil => cases h
  | cons s rest ih =>
      cases i with
      | zero =>
          simp [addTo]
          omega
      | succ i =>
          have later := ih (Nat.lt_of_succ_lt_succ h)
          rw [addTo] at later ⊢
          rw [List.modify_succ_cons, List.flatMap_cons, List.length_append, later,
            List.flatMap_cons, List.length_append, Nat.add_assoc]

theorem apply_of_complete {lower : String} {form : Form} {e : Enrichment}
    (h : containsText e.trigger lower = true → e.isIn form = true) : e.apply lower form = form := by
  refine if_neg fun wanted => ?_
  obtain ⟨mentioned, absent⟩ := Bool.and_eq_true_iff.mp wanted
  rw [h mentioned] at absent
  cases absent

theorem apply_of_incomplete {lower : String} {form : Form} {e : Enrichment}
    (some_section : form.sections ≠ []) (h : ¬ (containsText e.trigger lower = true →
      e.isIn form = true)) :
    (e.apply lower form).sections ≠ [] ∧
      (e.apply lower form).fields.length = form.fields.length + 1 := by
  have wanted : (containsText e.trigger lower && !e.isIn form) = true := by simpa using h
  have place : e.place (form.sections.map (·.title)) < (form.sections.map (·.title)).length :=
    e.place_lt (by simpa using some_section)
  rw [List.length_map] at place
  rw [apply, if_pos wanted]
  refine ⟨?_, length_fields_addTo e.field place⟩
  rw [← List.length_pos_iff] at some_section ⊢
  simpa [addTo] using some_section

/-- Adding the questions that a prompt mentions takes none away, and adds none only if the form has
all of them. -/
theorem foldl_apply {lower : String} (es : List Enrichment) {form : Form}
    (some_section : form.sections ≠ []) :
    form.fields.length ≤ (es.foldl (apply lower) form).fields.length ∧
      ((es.foldl (apply lower) form).fields.length ≤ form.fields.length →
        Complete lower form es) := by
  induction es generalizing form with
  | nil => exact ⟨Nat.le_refl _, fun _ e he => absurd he List.not_mem_nil⟩
  | cons e es ih =>
      rw [List.foldl_cons]
      by_cases h : containsText e.trigger lower = true → e.isIn form = true
      · rw [apply_of_complete h]
        obtain ⟨grows, stays⟩ := ih some_section
        refine ⟨grows, fun short e' he' => ?_⟩
        rcases List.mem_cons.mp he' with rfl | later
        · exact h
        · exact stays short e' later
      · obtain ⟨some_section', length⟩ := apply_of_incomplete some_section h
        obtain ⟨grows, _⟩ := ih some_section'
        exact ⟨by omega, fun short => by omega⟩

theorem foldl_apply_of_complete {lower : String} {form : Form} {es : List Enrichment}
    (h : Complete lower form es) : es.foldl (apply lower) form = form := by
  induction es with
  | nil => rfl
  | cons e es ih =>
      obtain ⟨here, others⟩ := List.forall_mem_cons.mp h
      rw [List.foldl_cons, apply_of_complete here, ih others]

end Enrichment

theorem Form.title_enrich (form : Form) (prompt : String) :
    (form.enrich prompt).title = form.title := by
  refine enrich_induction (P := fun form' => form'.title = form.title) prompt rfl ?_
  intro e _ form' same
  rw [Enrichment.apply]
  split <;> exact same

/-- A form that has every question that a prompt mentions stays as it is. -/
theorem Form.enrich_of_complete {form : Form} {prompt : String}
    (h : Enrichment.Complete (lowered prompt) form Enrichment.all) : form.enrich prompt = form := by
  rw [enrich, Enrichment.foldl_apply_of_complete h, ite_self]

/-- Enriching a form with sections takes no question away, and adds none only if the form has every
question that the prompt mentions. -/
theorem Form.length_fields_enrich {form : Form} (some_section : form.sections ≠ [])
    (prompt : String) : form.fields.length ≤ (form.enrich prompt).fields.length ∧
      ((form.enrich prompt).fields.length ≤ form.fields.length →
        Enrichment.Complete (lowered prompt) form Enrichment.all) := by
  have filled : ¬ form.sections.isEmpty = true := by simpa using some_section
  rw [enrich, if_neg filled]
  exact Enrichment.foldl_apply Enrichment.all some_section

theorem Form.usual_enrich {form : Form} (usual : ∀ f ∈ form.fields, f.Usual) (prompt : String) :
    ∀ f ∈ (form.enrich prompt).fields, f.Usual := by
  intro f hf
  rcases (form.enrich_woven prompt).own_or_extra hf with own | ⟨asked, _⟩
  · exact usual f own
  · exact asked.toUsual

namespace Template

open PromptForm.Field

/-- A field like a plain one is usual when its limits are those of stock forms. -/
theorem usual_like (kind : Kind) (label : String) {f : Field} (type : f.type = kind.name)
    (same : f.label = label) (fits : kind.mayVanish = false ∧ isBlankText label = false)
    (rating : f.maxRating = none ∨ f.maxRating = some (.int 5))
    (size : f.maxFileSize = none ∨ f.maxFileSize = some (.int 10)) : f.Usual where
  label := by rw [same]; exact fits.2
  kind := ⟨kind, type, fits.1⟩
  rating x limit := by rcases rating with h | h <;> rw [h] at limit <;> cases limit
  size x limit := by rcases size with h | h <;> rw [h] at limit <;> cases limit

theorem usual_bugReport (prompt : String) : ∀ f ∈ (bugReport prompt).fields, f.Usual := by
  simp only [bugReport, Form.fields, part, List.flatMap_cons, List.flatMap_nil, List.cons_append,
    List.nil_append, List.append_nil, List.forall_mem_cons]
  refine ⟨?_, ?_, ?_, ?_, ?_, ?_, ?_, ?_, ?_, ?_, ?_, ?_, by simp⟩
  · exact usual_like .text "Your Name" rfl rfl (by decide) (.inl rfl) (.inl rfl)
  · exact usual_like .email "Email" rfl rfl (by decide) (.inl rfl) (.inl rfl)
  · exact usual_like .multipleChoice "Preferred contact method" rfl rfl (by decide) (.inl rfl)
      (.inl rfl)
  · exact usual_like .text "Bug title" rfl rfl (by decide) (.inl rfl) (.inl rfl)
  · exact usual_like .dropdown "Severity" rfl rfl (by decide) (.inl rfl) (.inl rfl)
  · exact usual_like .checkboxes "Affected area" rfl rfl (by decide) (.inl rfl) (.inl rfl)
  · exact usual_like .text "Please specify the affected area" rfl rfl (by decide) (.inl rfl)
      (.inl rfl)
  · exact usual_like .textarea "Steps to reproduce" rfl rfl (by decide) (.inl rfl) (.inl rfl)
  · exact usual_like .textarea "Expected behavior" rfl rfl (by decide) (.inl rfl) (.inl rfl)
  · exact usual_like .textarea "Actual behavior" rfl rfl (by decide) (.inl rfl) (.inl rfl)
  · exact usual_like .text "Browser / OS / App version" rfl rfl (by decide) (.inl rfl) (.inl rfl)
  · exact usual_like .fileUpload "Screenshots or recordings" rfl rfl (by decide) (.inl rfl)
      (.inr rfl)

theorem usual_feedback : ∀ f ∈ feedback.fields, f.Usual := by
  simp only [feedback, Form.fields, part, List.flatMap_cons, List.flatMap_nil, List.append_nil,
    List.forall_mem_cons]
  refine ⟨?_, ?_, ?_, ?_, ?_, ?_, ?_, ?_, by simp⟩
  · exact usual_like .text "Full Name" rfl rfl (by decide) (.inl rfl) (.inl rfl)
  · exact usual_like .email "Email" rfl rfl (by decide) (.inl rfl) (.inl rfl)
  · exact usual_like .text "Country" rfl rfl (by decide) (.inl rfl) (.inl rfl)
  · exact usual_like .rating satisfactionLabel rfl rfl (by decide) (.inr rfl) (.inl rfl)
  · exact usual_like .textarea "Please tell us what went wrong" rfl rfl (by decide) (.inl rfl)
      (.inl rfl)
  · exact usual_like .multipleChoice "What did you like the most?" rfl rfl (by decide) (.inl rfl)
      (.inl rfl)
  · exact usual_like .multipleChoice recommendLabel rfl rfl (by decide) (.inl rfl) (.inl rfl)
  · exact usual_like .email "Friend's email for referral" rfl rfl (by decide) (.inl rfl) (.inl rfl)

/-- The fields of stock forms are usual ones. -/
theorem usual_match? {prompt : String} {form : Form} (h : match? prompt = some form) :
    ∀ f ∈ form.fields, f.Usual := by
  simp only [match?] at h
  split at h
  · cases h
    exact usual_bugReport prompt
  · split at h
    · cases h
      exact usual_feedback
    · cases h

end Template

end PromptForm
