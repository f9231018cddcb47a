import Mathlib.Data.List.Nodup
import Mathlib.Data.List.Perm.Basic
import PromptForm.Proofs.Enrichment

/-! # Forms enriched for several prompts

A form may be enriched for one prompt after another. A question shows in a form by its own field and
by that of no other question, so the questions do not get in each other's way: what is added, and
where, depends on what the prompts mention and on the form at the start, and not on the order.
-/

namespace PromptForm

namespace Enrichment

/-! ## Questions that show in a form -/

/-- Does a field show that a form has the question? -/
def isShownBy (e : Enrichment) (f : Field) : Bool :=
  ((e.present.filter (!·.isEmpty)).map lowered).any
      (fun needle => containsText needle (lowered f.label)) ||
    e.presentKind.any fun kind => f.kind? == some kind

theorem isIn_eq_any (e : Enrichment) (form : Form) : e.isIn form = form.fields.any e.isShownBy := by
  have split (p q : Field → Bool) (fields : List Field) :
      (fields.any fun f => p f || q f) = (fields.any p || fields.any q) := by
    induction fields with
    | nil => rfl
    | cons f fields ih =>
        simp only [List.any_cons, ih]
        grind
  unfold isShownBy
  rw [isIn, Form.hasFieldLabeled, split]
  cases e.presentKind <;> simp

/-- A question shows by its own field and by that of no other question. -/
theorem isShownBy_field {e e' : Enrichment} (he : e ∈ all) (he' : e' ∈ all) :
    e'.isShownBy e.field = (e'.trigger == e.trigger) := by
  have table : ∀ e ∈ all, ∀ e' ∈ all, e'.isShownBy e.field = (e'.trigger == e.trigger) := by
    decide +kernel
  exact table e he e' he'

theorem eq_of_trigger {e e' : Enrichment} (he : e ∈ all) (he' : e' ∈ all)
    (same : e.trigger = e'.trigger) : e = e' := by
  have distinct : (all.map trigger).Nodup := by decide
  exact List.inj_on_of_nodup_map distinct he he' same

theorem any_fields_addTo (p : Field → Bool) (f : Field) {secs : List Section} {i : Nat}
    (h : i < secs.length) : ((addTo f secs i).flatMap Section.fields).any p =
      ((secs.flatMap Section.fields).any p || p f) := by
  rcases fields_addTo f secs i with same | ⟨before, after, split, added⟩
  · have longer := length_fields_addTo f h
    rw [same] at longer
    omega
  · rw [added, split, List.any_append, List.any_cons, List.any_append]
    grind

theorem place_lt_length (e : Enrichment) {form : Form} (filled : form.sections ≠ []) :
    e.place (form.sections.map (·.title)) < form.sections.length := by
  have titled : form.sections.map (·.title) ≠ [] := by simpa using filled
  simpa using e.place_lt titled

theorem isIn_apply {e e' : Enrichment} {form : Form} (filled : form.sections ≠ [])
    (lower : String) : e'.isIn (e.apply lower form) =
      (e'.isIn form || (containsText e.trigger lower && !e.isIn form) && e'.isShownBy e.field) := by
  rw [apply]
  split
  · rename_i wanted
    rw [wanted, Bool.true_and, isIn_eq_any, isIn_eq_any, Form.fields,
      any_fields_addTo e'.isShownBy e.field (e.place_lt_length filled)]
    rfl
  · rename_i unwanted
    rw [eq_false_of_ne_true unwanted, Bool.false_and, Bool.or_false]

theorem sections_apply_ne_nil {e : Enrichment} {form : Form} (filled : form.sections ≠ [])
    (lower : String) : (e.apply lower form).sections ≠ [] := by
  rw [apply]
  split
  · rw [← List.length_pos_iff] at filled ⊢
    simpa [addTo] using filled
  · exact filled

/-- Once a lowercased prompt has been gone through, the form has the questions it mentions. -/
theorem complete_foldl {lower : String} {es : List Enrichment} (listed : ∀ e ∈ es, e ∈ all)
    {form : Form} (filled : form.sections ≠ []) :
    Complete lower (es.foldl (apply lower) form) es ∧
      ∀ e : Enrichment, e.isIn form = true → e.isIn (es.foldl (apply lower) form) = true := by
  induction es generalizing form with
  | nil => exact ⟨fun e he => absurd he List.not_mem_nil, fun e h => h⟩
  | cons e es ih =>
      obtain ⟨here, others⟩ := List.forall_mem_cons.mp listed
      obtain ⟨complete, kept⟩ := ih others (sections_apply_ne_nil (e := e) filled lower)
      refine ⟨List.forall_mem_cons.mpr ⟨fun mentioned => kept e ?_, complete⟩, ?_⟩
      · rw [isIn_apply filled, isShownBy_field here here, mentioned]
        cases e.isIn form <;> simp
      · intro e' h
        apply kept
        rw [isIn_apply filled, h, Bool.true_or]

/-- The questions that some prompts mention and that a form does not have. -/
def missing (prompts : List String) (form : Form) : List Enrichment :=
  all.filter fun e =>
    prompts.any (fun prompt => containsText e.trigger (lowered prompt)) && !e.isIn form

theorem mem_missing {prompts : List String} {form : Form} {e : Enrichment} :
    e ∈ missing prompts form ↔ e ∈ all ∧
      (∃ prompt ∈ prompts, containsText e.trigger (lowered prompt) = true) ∧
        e.isIn form = false := by
  simp [missing]

theorem nodup_missing (prompts : List String) (form : Form) :
    ((missing prompts form).map trigger).Nodup := by
  have distinct : (all.map trigger).Nodup := by decide
  exact distinct.sublist (List.filter_sublist.map trigger)

end Enrichment

namespace Form

open Enrichment

/-! ## Questions at the ends of sections -/

/-- A form with questions, each at the end of the section that it fits into. -/
def adding (form : Form) (es : List Enrichment) : Form :=
  { form with
    sections := form.sections.mapIdx fun i s =>
      { s with
        fields := s.fields ++
          (es.filter fun e => e.place (form.sections.map (·.title)) == i).map (·.field) } }

theorem adding_nil (form : Form) : form.adding [] = form := by
  have same : (form.adding []).sections = form.sections := by
    apply List.ext_getElem?
    intro i
    simp [adding]
  exact congrArg (fun sections => { form with sections := sections }) same

theorem titles_adding (form : Form) (es : List Enrichment) :
    (form.adding es).sections.map (·.title) = form.sections.map (·.title) := by
  apply List.ext_getElem?
  intro i
  simp only [adding, List.getElem?_map, List.getElem?_mapIdx, Option.map_map]
  rfl

theorem adding_concat (form : Form) (es : List Enrichment) (e : Enrichment) :
    { form.adding es with
      sections := addTo e.field (form.adding es).sections
        (e.place ((form.adding es).sections.map (·.title))) } = form.adding (es ++ [e]) := by
  rw [titles_adding]
  simp only [adding, addTo, Form.mk.injEq, true_and, and_true]
  apply List.ext_getElem?
  intro i
  rw [List.getElem?_modify, List.getElem?_mapIdx, List.getElem?_mapIdx]
  cases form.sections[i]? with
  | none => rfl
  | some s =>
      by_cases here : e.place (form.sections.map (·.title)) = i
      · simp [here, List.filter_append]
      · simp [here, List.filter_append]

theorem apply_adding (form : Form) (es : List Enrichment) (e : Enrichment) (lower : String) :
    e.apply lower (form.adding es) =
      if containsText e.trigger lower && !e.isIn (form.adding es) then form.adding (es ++ [e])
      else form.adding es := by
  rw [Enrichment.apply, adding_concat]

theorem isIn_adding {form : Form} (filled : form.sections ≠ []) {es : List Enrichment}
    (listed : ∀ e ∈ es, e ∈ all) {e' : Enrichment} (he' : e' ∈ all) :
    e'.isIn (form.adding es) = (e'.isIn form || es.any fun e => e'.trigger == e.trigger) := by
  induction es using List.reverseRecOn with
  | nil => rw [adding_nil, List.any_nil, Bool.or_false]
  | append_singleton es e ih =>
      have place : e.place ((form.adding es).sections.map (·.title)) <
          (form.adding es).sections.length := by
        rw [titles_adding]
        simpa [adding] using e.place_lt_length filled
      have shown := isShownBy_field (listed e (by simp)) he'
      have before := ih fun e he => listed e (List.mem_append_left _ he)
      rw [isIn_eq_any] at before
      rw [← adding_concat, isIn_eq_any]
      unfold Form.fields at before ⊢
      rw [any_fields_addTo e'.isShownBy e.field place, before, shown, List.any_append,
        List.any_cons, List.any_nil, Bool.or_false, Bool.or_assoc]

/-! ## One prompt after another -/

/-- A form enriched for each of some prompts, one after the other. -/
def enrichAll (form : Form) (prompts : List String) : Form := prompts.foldl Form.enrich form

theorem enrich_eq_foldl {form : Form} (filled : form.sections ≠ []) (prompt : String) :
    form.enrich prompt = all.foldl (Enrichment.apply (lowered prompt)) form := by
  rw [enrich, if_neg (by simpa using filled)]

theorem sections_enrich_ne_nil {form : Form} (filled : form.sections ≠ []) (prompt : String) :
    (form.enrich prompt).sections ≠ [] := by
  rwa [← List.length_pos_iff, length_sections_enrich, List.length_pos_iff]

/-- Once a form is enriched for some prompts, it has the questions that they mention. -/
theorem complete_enrichAll {form : Form} (filled : form.sections ≠ []) (prompts : List String) :
    (∀ prompt ∈ prompts, Complete (lowered prompt) (form.enrichAll prompts) all) ∧
      ∀ e : Enrichment, e.isIn form = true → e.isIn (form.enrichAll prompts) = true := by
  induction prompts generalizing form with
  | nil => exact ⟨fun prompt h => absurd h List.not_mem_nil, fun e h => h⟩
  | cons prompt prompts ih =>
      obtain ⟨complete, kept⟩ := complete_foldl (fun e (he : e ∈ all) => he) filled
      rw [← enrich_eq_foldl filled prompt] at complete kept
      obtain ⟨later, still⟩ := ih (sections_enrich_ne_nil filled prompt)
      refine ⟨List.forall_mem_cons.mpr ⟨?_, later⟩, fun e h => still e (kept e h)⟩
      intro e he mentioned
      exact still e (complete e he mentioned)

/-- The questions that have been added are missing ones, and none has been added twice. -/
structure Added (prompts : List String) (form : Form) (es : List Enrichment) : Prop where
  missing : ∀ e ∈ es, e ∈ missing prompts form
  once : (es.map Enrichment.trigger).Nodup

theorem Added.enrich {prompts : List String} {form : Form} (filled : form.sections ≠ [])
    {es : List Enrichment} (h : Added prompts form es) {prompt : String} (hp : prompt ∈ prompts) :
    ∃ es', (form.adding es).enrich prompt = form.adding es' ∧ Added prompts form es' := by
  refine enrich_induction (P := fun form' => ∃ es', form' = form.adding es' ∧ Added prompts form es')
    prompt ⟨es, rfl, h⟩ ?_
  rintro e he _ ⟨es, rfl, h⟩
  have listed : ∀ e ∈ es, e ∈ all := fun e he => (mem_missing.mp (h.missing e he)).1
  rw [apply_adding]
  split
  · rename_i wanted
    rw [isIn_adding filled listed he] at wanted
    simp only [Bool.and_eq_true, Bool.not_eq_true', Bool.or_eq_false_iff] at wanted
    obtain ⟨mentioned, absent, unlike⟩ := wanted
    refine ⟨es ++ [e], rfl, ⟨?_, ?_⟩⟩
    · intro e' he'
      rcases List.mem_append.mp he' with earlier | last
      · exact h.missing e' earlier
      · rw [List.mem_singleton.mp last]
        exact mem_missing.mpr ⟨he, ⟨prompt, hp, mentioned⟩, absent⟩
    · rw [List.map_append, List.nodup_append]
      refine ⟨h.once, by simp, ?_⟩
      rintro _ among _ last rfl
      obtain ⟨e', he', same⟩ := List.mem_map.mp among
      simp only [List.map_cons, List.map_nil, List.mem_singleton] at last
      have differs := List.any_eq_false.mp unlike e' he'
      rw [same, last] at differs
      simp at differs
  · exact ⟨es, rfl, h⟩

theorem added_enrichAll {form : Form} (filled : form.sections ≠ []) {prompts : List String}
    {es : List Enrichment} (h : Added prompts form es) {some_prompts : List String}
    (among : ∀ prompt ∈ some_prompts, prompt ∈ prompts) :
    ∃ es', (form.adding es).enrichAll some_prompts = form.adding es' ∧ Added prompts form es' := by
  induction some_prompts generalizing es with
  | nil => exact ⟨es, rfl, h⟩
  | cons prompt rest ih =>
      obtain ⟨here, others⟩ := List.forall_mem_cons.mp among
      obtain ⟨es', step, h'⟩ := h.enrich filled here
      rw [enrichAll, List.foldl_cons, step]
      exact ih h' others

/-- What some prompts add to a form is what is missing, in some order. -/
theorem exists_added {form : Form} (filled : form.sections ≠ []) (prompts : List String) :
    ∃ es, form.enrichAll prompts = form.adding es ∧ es.Perm (missing prompts form) := by
  have start : Added prompts form [] := ⟨fun e he => absurd he List.not_mem_nil, List.nodup_nil⟩
  obtain ⟨es, run, added⟩ := added_enrichAll filled start (fun prompt h => h)
  rw [adding_nil] at run
  refine ⟨es, run, ?_⟩
  rw [List.perm_ext_iff_of_nodup added.once.of_map (nodup_missing prompts form).of_map]
  refine fun e => ⟨added.missing e, fun lacking => ?_⟩
  obtain ⟨he, ⟨prompt, hp, mentioned⟩, absent⟩ := mem_missing.mp lacking
  have listed : ∀ e ∈ es, e ∈ all := fun e he => (mem_missing.mp (added.missing e he)).1
  have present := (complete_enrichAll filled prompts).1 prompt hp e he mentioned
  rw [run, isIn_adding filled listed he, absent, Bool.false_or] at present
  obtain ⟨e', he', same⟩ := List.any_eq_true.mp present
  rw [eq_of_trigger he (listed e' he') (by simpa using same)]
  exact he'

theorem missing_congr {prompts others : List String}
    (same : ∀ prompt, prompt ∈ others ↔ prompt ∈ prompts) (form : Form) :
    missing others form = missing prompts form := by
  have mentioned (e : Enrichment) :
      (others.any fun prompt => containsText e.trigger (lowered prompt)) =
        prompts.any fun prompt => containsText e.trigger (lowered prompt) := by
    rw [Bool.eq_iff_iff, List.any_eq_true, List.any_eq_true]
    simp only [same]
  simp only [missing, mentioned]

/-- Enriching a form with sections for some prompts leaves its fields where they are and puts, at the
end of the section that it fits into, each question once that is mentioned and missing at the start.
The same prompts in another order, or more than once, add the same, and to enrich the form for one
of them again changes nothing. -/
theorem enrichAll_eq_adding {form : Form} (filled : form.sections ≠ []) (prompts : List String) :
    ∃ added : List Enrichment, form.enrichAll prompts = form.adding added ∧
      added.Perm (missing prompts form) ∧ (added.map fun e => e.field.label).Nodup ∧
      (∀ e ∈ added, e.place (form.sections.map (·.title)) < form.sections.length) ∧
      (∀ others : List String, (∀ prompt, prompt ∈ others ↔ prompt ∈ prompts) →
        ∃ added', form.enrichAll others = form.adding added' ∧ added'.Perm added) ∧
      ∀ prompt ∈ prompts, (form.enrichAll prompts).enrich prompt = form.enrichAll prompts := by
  obtain ⟨added, run, order⟩ := exists_added filled prompts
  refine ⟨added, run, order, ?_, ?_, ?_, ?_⟩
  · have distinct : (all.map fun e => e.field.label).Nodup := by decide
    rw [(order.map _).nodup_iff]
    exact distinct.sublist (List.filter_sublist.map _)
  · intro e _
    exact e.place_lt_length filled
  · intro others same
    obtain ⟨added', run', order'⟩ := exists_added filled others
    rw [missing_congr same form] at order'
    exact ⟨added', run', order'.trans order.symm⟩
  · intro prompt hp
    exact enrich_of_complete ((complete_enrichAll filled prompts).1 prompt hp)

/-- A form with a question about consent and a section for problems. -/
def leakForm : Form where
  title := "Leaks"
  description := none
  sections := [
    ⟨"You", none, [Field.plain .text "I agree to be called", Field.plain .text "Name"], []⟩,
    ⟨"Problem details", none, [], []⟩]
  settings := none
  extras := []

theorem enrichAll_leakForm : leakForm.sections ≠ [] ∧ ∃ added : List Enrichment,
    leakForm.enrichAll ["Severity, please", "Time of day, SEVERITY and consent"] =
      leakForm.adding added ∧
    (added.map fun e => (e.field.label, e.place ["You", "Problem details"])).Perm
      [("Severity", 1), ("Best time of day to reach you", 0)] := by
  have filled : leakForm.sections ≠ [] := List.cons_ne_nil _ _
  obtain ⟨added, run, order, _⟩ :=
    enrichAll_eq_adding filled ["Severity, please", "Time of day, SEVERITY and consent"]
  have lacking : (missing ["Severity, please", "Time of day, SEVERITY and consent"] leakForm).map
      (fun e => (e.field.label, e.place ["You", "Problem details"])) =
        [("Severity", 1), ("Best time of day to reach you", 0)] := by
    decide +kernel
  refine ⟨filled, added, run, ?_⟩
  rw [← lacking]
  exact order.map _

end Form

end PromptForm
