import PromptForm.Proofs.Text.Line

/-! # Phrases in a text

A search finds something exactly if there is a place where it does. So a phrase is found as whole
words exactly if it stands in the text with no word character next to it. It does not reach over a
character that is not in it.
-/

namespace PromptForm.Text

theorem getLast?_cons_or (c : Char) (cs : List Char) (before : Option Char) :
    (c :: cs).getLast?.or before = cs.getLast?.or (some c) := by
  rw [List.getLast?_cons, Option.some_or, Option.or_some]

theorem firstMatch_isSome_iff {α : Type} {here : Option Char → List Char → Option α}
    {before : Option Char} {cs : List Char} :
    (firstMatch here before cs).isSome = true ↔
      ∃ front rest, cs = front ++ rest ∧ (here (front.getLast?.or before) rest).isSome = true := by
  induction cs generalizing before with
  | nil =>
      constructor
      · intro found
        exact ⟨[], [], rfl, found⟩
      · rintro ⟨front, rest, split, found⟩
        obtain ⟨rfl, rfl⟩ := List.append_eq_nil_iff.mp split.symm
        exact found
  | cons c cs ih =>
      rw [firstMatch]
      cases first : here before (c :: cs) with
      | some answer =>
          refine iff_of_true rfl ⟨[], c :: cs, rfl, ?_⟩
          rw [List.getLast?_nil, Option.none_or, first, Option.isSome_some]
      | none =>
          rw [ih]
          constructor
          · rintro ⟨front, rest, rfl, found⟩
            exact ⟨c :: front, rest, rfl, by rwa [getLast?_cons_or]⟩
          · rintro ⟨front, rest, split, found⟩
            cases front with
            | nil =>
                rw [List.nil_append] at split
                subst split
                rw [List.getLast?_nil, Option.none_or, first] at found
                cases found
            | cons d front =>
                obtain ⟨rfl, rfl⟩ := List.cons.inj split
                exact ⟨front, rest, rfl, by rwa [getLast?_cons_or] at found⟩

def endsWithWord (cs : List Char) : Bool := cs.getLast?.any isWord

/-- A phrase stands in a text with no word character next to it. -/
def Stands (phrase cs : List Char) : Prop :=
  ∃ front behind, cs = front ++ (phrase ++ behind) ∧ endsWithWord front = false ∧
    startsWithWord behind = false

theorem startsWithWord_append {cs : List Char} (h : startsWithWord cs = true) (rest : List Char) :
    startsWithWord (cs ++ rest) = true := by
  cases cs with
  | nil => cases h
  | cons c cs => exact h

/-- A phrase that begins with a word character is found exactly if it stands in the text. -/
theorem hasPhrase_iff {phrase cs : List Char} (begins : startsWithWord phrase = true) :
    hasPhrase phrase cs = true ↔ Stands phrase cs := by
  have here (front rest : List Char) : (if atBoundary (front.getLast?.or none) rest then
      (dropPrefix? phrase rest).filter fun after => !startsWithWord after else none).isSome = true ↔
        ∃ behind, rest = phrase ++ behind ∧ endsWithWord front = false ∧
          startsWithWord behind = false := by
    constructor
    · intro found
      split at found
      · rename_i boundary
        obtain ⟨behind, kept⟩ := Option.isSome_iff_exists.mp found
        obtain ⟨dropped, free⟩ := Option.filter_eq_some_iff.mp kept
        obtain rfl := dropPrefix?_eq_some.mp dropped
        rw [atBoundary, startsWithWord_append begins, Option.or_none] at boundary
        exact ⟨behind, rfl, by simpa [endsWithWord] using boundary, by simpa using free⟩
      · cases found
    · rintro ⟨behind, rfl, left, right⟩
      have boundary : atBoundary (front.getLast?.or none) (phrase ++ behind) = true := by
        rw [atBoundary, startsWithWord_append begins, Option.or_none, ← endsWithWord, left]
        rfl
      rw [if_pos boundary, dropPrefix?_eq_some.mpr rfl, Option.filter_some, right]
      rfl
  simp only [hasPhrase, firstMatch_isSome_iff, here]
  constructor
  · rintro ⟨front, _, split, behind, rfl, sides⟩
    exact ⟨front, behind, split, sides⟩
  · rintro ⟨front, behind, split, sides⟩
    exact ⟨front, _, split, behind, rfl, sides⟩

/-- A word that begins in front of a character that is not in it ends there as well. -/
theorem ends_before {stem after front word rest : List Char} {x : Char} (other : x ∉ word)
    (near : front.length ≤ stem.length)
    (split : stem ++ x :: after = front ++ (word ++ rest)) :
    ∃ inside, stem = front ++ (word ++ inside) ∧ rest = inside ++ x :: after := by
  obtain ⟨tail, rfl⟩ : front <+: stem :=
    List.prefix_of_prefix_length_le ⟨_, split.symm⟩ (List.prefix_append stem _) near
  rw [List.append_assoc, List.append_right_inj] at split
  rcases List.append_eq_append_iff.mp split with ⟨letters, word_eq, behind⟩ | ⟨inside, rfl, behind⟩
  · cases letters with
    | nil =>
        rw [List.append_nil] at word_eq
        exact ⟨[], by rw [word_eq, List.append_nil], behind.symm⟩
    | cons y letters =>
        obtain ⟨rfl, _⟩ := List.cons.inj behind
        exact absurd (word_eq ▸ List.mem_append_right tail List.mem_cons_self) other
  · exact ⟨inside, rfl, behind⟩

/-- What stands in front of a character that is no word character makes no difference. -/
theorem endsWithWord_past {x : Char} (wordless : isWord x = false) (cs ds : List Char) :
    endsWithWord (cs ++ x :: ds) = endsWithWord ds := by
  cases ds with
  | nil => simp [endsWithWord, wordless]
  | cons d ds => simp [endsWithWord, List.getLast?_cons]

theorem startsWithWord_past {x : Char} (wordless : isWord x = false) (cs ds : List Char) :
    startsWithWord (cs ++ x :: ds) = startsWithWord cs := by
  cases cs with
  | nil => exact wordless
  | cons c cs => rfl

/-- A phrase stands in two texts with a character between them that is no word character and not in
the phrase exactly if it stands in one of the texts. -/
theorem stands_apart_iff {phrase : List Char} {x : Char} (other : x ∉ phrase)
    (wordless : isWord x = false) (cs ds : List Char) :
    Stands phrase (cs ++ x :: ds) ↔ Stands phrase cs ∨ Stands phrase ds := by
  constructor
  · rintro ⟨front, behind, split, left, right⟩
    by_cases near : front.length ≤ cs.length
    · obtain ⟨inside, rfl, rfl⟩ := ends_before other near split
      rw [startsWithWord_past wordless] at right
      exact .inl ⟨front, inside, rfl, left, right⟩
    · obtain ⟨more, rfl⟩ : ∃ more, front = cs ++ x :: more := by
        have longer : (cs ++ [x]).length ≤ front.length := by
          rw [List.length_append, List.length_singleton]
          omega
        obtain ⟨more, same⟩ : cs ++ [x] <+: front :=
          List.prefix_of_prefix_length_le ⟨ds, (List.append_cons cs x ds).symm⟩ ⟨_, split.symm⟩ longer
        exact ⟨more, by rw [← same, ← List.append_cons]⟩
      rw [endsWithWord_past wordless] at left
      rw [List.append_assoc, List.cons_append, List.append_right_inj, List.cons_inj_right] at split
      exact .inr ⟨more, behind, split, left, right⟩
  · rintro (⟨front, behind, rfl, left, right⟩ | ⟨front, behind, rfl, left, right⟩)
    · refine ⟨front, behind ++ x :: ds, by simp only [List.append_assoc], left, ?_⟩
      rw [startsWithWord_past wordless, right]
    · refine ⟨cs ++ x :: front, behind, by simp only [List.append_assoc, List.cons_append], ?_, right⟩
      rw [endsWithWord_past wordless, left]

end PromptForm.Text
