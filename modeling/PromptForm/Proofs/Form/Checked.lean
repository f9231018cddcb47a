import PromptForm.Proofs.Field.Kind
import PromptForm.Proofs.Lowering.Groups
import PromptForm.Proofs.Schema.Checked
import PromptForm.Proofs.Text.Slug

/-! # Checked forms

The label of a checked field is trimmed, and its type is the name of a kind or a slug. So every field
has a title that can be shown: its label, or the words of its type.
-/

namespace PromptForm

namespace Text

/-- A basic letter or a digit is a word character, and stays visible as a capital. -/
theorem slugChar_upper {c : Char} (h : isSlugChar c) :
    (c == '_') = false ∧ isWord c ∧ (upperChar c).all isBlank = false := by
  have each : ∀ n < 128, isSlugChar (Char.ofNat n) → (Char.ofNat n == '_') = false ∧
      isWord (Char.ofNat n) ∧ (upperChar (Char.ofNat n)).all isBlank = false := by
    decide
  exact forall_basic (P := fun c => isSlugChar c → (c == '_') = false ∧ isWord c ∧
    (upperChar c).all isBlank = false) each (basic_of_isSlugChar h) h

end Text

open Text

theorem words_shown {type : String} (h : StartsLikeSlug type) :
    isBlankText (onText (fun cs => titleCase (cs.map fun c => if c == '_' then ' ' else c))
      type) = false := by
  obtain ⟨c, rest, split, slug⟩ := h
  obtain ⟨plain, word, shown⟩ := slugChar_upper slug
  rw [isBlankText, onText, String.toList_ofList, split, List.map_cons, titleCase, titleCaseFrom,
    plain]
  simp only [Bool.false_eq_true, if_false, word, Bool.not_false, Bool.and_self, if_true,
    List.all_append, shown, Bool.false_and]

namespace Field

/-- A field with a trimmed label and a type that begins like a slug has a title. -/
theorem titled_of_label {f : Field} {s : String} (label : f.label = trimmed s)
    (type : StartsLikeSlug f.type) : f.Titled := by
  simp only [Titled, shownLabel]
  split
  · exact words_shown type
  · rename_i given
    rw [label] at given ⊢
    exact isBlankText_trimmed (eq_false_of_ne_true given)

theorem check_titled (v : Json) : (check v).Promises Titled := by
  refine Check.promises_object (fun entries => ?_) v
  split
  · exact fun _ passed => by cases passed
  · exact fun _ passed => by cases passed
  · unfold ofEntries
    iterate 26 refine Checked.promises_seq ?_
    have label : (Entries.optional (Coercion.entries entries) Attribute.label.key ""
        fun v => (Check.text v).map trimmed).Promises fun label => ∃ s, label = trimmed s :=
      Entries.promises_optional (fun v => Checked.promises_map fun s _ => ⟨s, rfl⟩) ⟨"", rfl⟩
    have type : (Entries.optional (Coercion.entries entries) Attribute.type.key Kind.text.name
        fun v => .ok (Kind.nameOf v)).Promises StartsLikeSlug :=
      Entries.promises_optional
        (fun v => Checked.promises_pure (Kind.startsLikeSlug_nameOf v))
        (Kind.startsLikeSlug_name .text)
    refine Checked.promises_seq_of label (Checked.promises_seq_of type (Checked.promises_pure ?_))
    intro type like label ⟨s, same⟩
    intros
    exact titled_of_label same like

end Field

theorem Section.check_titled (v : Json) :
    (Section.check v).Promises fun s => ∀ f ∈ s.fields, f.Titled := by
  refine Check.promises_object (fun entries => ?_) v
  refine Checked.promises_seq ?_
  refine Checked.promises_seq_of
    (Checked.promises_under (Checked.promises_items Field.check_titled _)) ?_
  refine Checked.promises_seq (Checked.promises_seq (Checked.promises_pure ?_))
  intro _ _ fields titled _
  exact titled

/-- A form that passed its check has fields with titles. -/
theorem Form.check_titled (v : Json) :
    (Form.check v).Promises fun form => ∀ f ∈ form.fields, f.Titled := by
  have sections : (v : Json) → (Check.list Section.check v).Promises fun secs =>
      ∀ s ∈ secs, ∀ f ∈ s.fields, f.Titled := Check.promises_list Section.check_titled
  refine Check.promises_object (fun entries => ?_) v
  refine Checked.promises_seq (Checked.promises_seq ?_)
  refine Checked.promises_seq_of (Entries.promises_optional sections fun s hs => by cases hs) ?_
  refine Checked.promises_seq (Checked.promises_seq (Checked.promises_pure ?_))
  intro _ _ secs titled _ _ f hf
  obtain ⟨s, hs, hf⟩ := List.mem_flatMap.mp hf
  exact titled s hs f hf

end PromptForm
