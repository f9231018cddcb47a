import PromptForm.Json.Display
import PromptForm.Proofs.Text.Blank

/-! # Texts of numbers

A number is written in digits, signs, points and letters, without any white space. So trimming its
text changes nothing.
-/

namespace PromptForm

namespace Text

theorem isBlank_of_isDigit {c : Char} (digit : c.isDigit = true) : isBlank c = false := by
  have small : c.toNat < 128 := by
    simp only [Char.isDigit, Bool.and_eq_true, decide_eq_true_eq, ge_iff_le,
      UInt32.le_iff_toNat_le] at digit
    have nine : '9'.val.toNat = 57 := rfl
    simp only [Char.toNat]
    omega
  exact forall_basic (P := fun c => c.isDigit = true → isBlank c = false) (by decide) small digit

/-- The form in which a fixed text is seen to be without blanks by running through it. -/
theorem shown_of_all {cs : List Char} (all : cs.all (!isBlank ·) = true) :
    ∀ c ∈ cs, isBlank c = false := by
  simpa only [List.all_eq_true, Bool.not_eq_true'] using all

end Text

open Text

/-- The texts of which trimming leaves everything, and something. -/
theorem trimmed?_of_forall {cs : List Char} (filled : cs ≠ [])
    (shown : ∀ c ∈ cs, isBlank c = false) :
    trimmed? (String.ofList cs) = some (String.ofList cs) := by
  have nonempty : (String.ofList cs).isEmpty = false := by
    rw [← Bool.not_eq_true, String.isEmpty_iff, ← String.toList_eq_nil_iff, String.toList_ofList]
    exact filled
  rw [trimmed?, trimmed, onText, String.toList_ofList, trim_of_forall shown, nonEmpty?, nonempty]
  rfl

namespace Decimal

theorem digitChars_shown {n : Nat} {c : Char} (h : c ∈ digitChars n) : isBlank c = false :=
  isBlank_of_isDigit (Nat.isDigit_of_mem_toDigits (by decide) (by decide) h)

theorem mantissa_shown {digits : List Char} (shown : ∀ c ∈ digits, isBlank c = false) :
    ∀ c ∈ (match digits with
      | [] => []
      | [c] => [c]
      | c :: rest => c :: '.' :: rest), isBlank c = false := by
  rcases digits with _ | ⟨first, _ | ⟨second, rest⟩⟩
  · exact shown
  · exact shown
  · obtain ⟨first, others⟩ := List.forall_mem_cons.mp shown
    exact List.forall_mem_cons.mpr ⟨first, List.forall_mem_cons.mpr ⟨rfl, others⟩⟩

theorem layout_shown (d : Decimal) : layout d ≠ [] ∧ ∀ c ∈ layout d, isBlank c = false := by
  have digits : ∀ c ∈ digitChars d.digits, isBlank c = false := fun c => digitChars_shown
  have zeros (n : Nat) : ∀ c ∈ List.replicate n '0', isBlank c = false := by
    intro c hc
    rw [List.eq_of_mem_replicate hc]
    rfl
  simp only [layout]
  split
  · refine ⟨by simp, ?_⟩
    refine List.forall_mem_append.mpr ⟨List.forall_mem_append.mpr ⟨List.forall_mem_append.mpr
      ⟨mantissa_shown digits, ?_⟩, zeros _⟩, fun c => digitChars_shown⟩
    split <;> exact shown_of_all rfl
  · split
    · refine ⟨by simp, List.forall_mem_append.mpr ⟨?_, digits⟩⟩
      exact List.forall_mem_cons.mpr ⟨rfl, List.forall_mem_cons.mpr ⟨rfl, zeros _⟩⟩
    · split
      · refine ⟨by simp, List.forall_mem_append.mpr ⟨List.forall_mem_append.mpr
          ⟨digits, zeros _⟩, shown_of_all rfl⟩⟩
      · refine ⟨by simp, List.forall_mem_append.mpr ⟨fun c hc => ?_, ?_⟩⟩
        · exact digits c (List.mem_of_mem_take hc)
        · exact List.forall_mem_cons.mpr ⟨rfl, fun c hc => digits c (List.mem_of_mem_drop hc)⟩

end Decimal

theorem Double.text_shown (x : Double) : x.text ≠ [] ∧ ∀ c ∈ x.text, isBlank c = false := by
  cases x with
  | nan => exact ⟨by decide, shown_of_all rfl⟩
  | infinite negative => cases negative <;> exact ⟨by decide, shown_of_all rfl⟩
  | finite negative significand exponent =>
      have sign : ∀ c ∈ (if negative then ['-'] else []), isBlank c = false := by
        cases negative <;> exact shown_of_all rfl
      have digits : ∀ cs : List Char, cs = (if significand == 0 then ['0', '.', '0']
          else (Decimal.shortest significand exponent).layout) →
          cs ≠ [] ∧ ∀ c ∈ cs, isBlank c = false := by
        rintro _ rfl
        split
        · exact ⟨by decide, shown_of_all rfl⟩
        · exact Decimal.layout_shown _
      obtain ⟨filled, shown⟩ := digits _ rfl
      exact ⟨List.append_ne_nil_of_right_ne_nil _ filled, List.forall_mem_append.mpr ⟨sign, shown⟩⟩

theorem intText_shown (n : Int) : intText n ≠ [] ∧ ∀ c ∈ intText n, isBlank c = false := by
  have digits : ∀ c ∈ Decimal.digitChars n.natAbs, isBlank c = false :=
    fun c => Decimal.digitChars_shown
  simp only [intText]
  split
  · exact ⟨List.cons_ne_nil _ _, List.forall_mem_cons.mpr ⟨rfl, digits⟩⟩
  · exact ⟨Nat.toDigits_ne_nil, digits⟩

namespace Json

theorem trimmed?_display_int (n : Int) : trimmed? (int n).display = some (int n).display :=
  trimmed?_of_forall (intText_shown n).1 (intText_shown n).2

theorem trimmed?_display_double (x : Double) :
    trimmed? (double x).display = some (double x).display :=
  trimmed?_of_forall x.text_shown.1 x.text_shown.2

end Json

end PromptForm
