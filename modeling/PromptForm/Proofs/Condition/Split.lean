import PromptForm.Proofs.Condition.Plain
import PromptForm.Proofs.Text.Lower

/-! # Where expressions are split

The word for equality is looked for in the lowercase of an expression, and the expression is split at
the same number of characters. A dotted capital `I` becomes two characters, so behind some of them
the expression is split as many characters too far to the right. Otherwise an expression that can be
read is split at a spelling of its operator.
-/

namespace PromptForm.Expression

open Text

/-- The word for equality, in some case, stands between two texts with white space or an end at both
sides of it. -/
structure IsEquals (front word rest : List Char) : Prop where
  word : lower word = equalsWord
  before : endsBlank front = true
  behind : beginsBlank rest = true

section Word

variable {front word rest : List Char}

theorem own_of_mem_equalsWord : ∀ p ∈ equalsWord, isOwnLetter p :=
  List.all_eq_true.mp (by decide)

theorem IsEquals.letters (h : IsEquals front word rest) :
    word.map Char.toLower = equalsWord ∧ ∀ c ∈ word, c.toNat < 128 := by
  have whole : lowerFrom [] word = equalsWord ++ [] := by
    rw [List.append_nil]
    exact h.word
  obtain ⟨spelled, tail, rfl, basic, same, last⟩ := lowerFrom_word own_of_mem_equalsWord whole
  have length := length_lowerFrom (spelled.reverse ++ []) tail
  rw [← last, List.length_nil] at length
  have nothing : tail = [] := List.eq_nil_of_length_eq_zero (by omega)
  rw [nothing, List.append_nil]
  exact ⟨same, basic⟩

theorem IsEquals.length (h : IsEquals front word rest) : word.length = equalsWord.length := by
  rw [← h.letters.1, List.length_map]

/-- The letters of the word show, and no sign begins with one. -/
theorem IsEquals.plain (h : IsEquals front word rest) {c : Char} (hc : c ∈ word) :
    isBlank c = false ∧ isSign c = false := by
  have basic : ∀ n < 128, (Char.ofNat n).toLower ∈ equalsWord →
      isBlank (Char.ofNat n) = false ∧ isSign (Char.ofNat n) = false := by
    decide +kernel
  obtain ⟨letters, low⟩ := h.letters
  have letter : c.toLower ∈ equalsWord := letters ▸ List.mem_map_of_mem hc
  rw [← Char.ofNat_toNat c] at letter ⊢
  exact basic c.toNat (low c hc) letter

end Word

/-! ## Positions of a scan -/

/-- Where a scan stands in a text: `front` has been passed, back to front, `cs` is left, and `lowered`
is what is left of the lowercase behind as many characters. -/
structure Position (t front : List Char) (before : Option Char) (lowered cs : List Char) : Prop where
  text : t = front.reverse ++ cs
  lowercase : ∃ passed, lower t = passed ++ lowered ∧ passed.length = front.length ∧
    passed.getLast? = before

namespace Position

variable {t front lowered cs : List Char} {before : Option Char}

theorem start (t : List Char) : Position t [] none (lower t) t :=
  ⟨rfl, [], rfl, rfl, rfl⟩

theorem next {c : Char} (h : Position t front before lowered (c :: cs)) :
    Position t (c :: front) lowered.head? lowered.tail cs := by
  obtain ⟨passed, split, length, _⟩ := h.lowercase
  refine ⟨by rw [h.text, List.reverse_cons, List.append_assoc]; rfl, ?_⟩
  cases lowered with
  | nil =>
      have longer := length_le_length_lower t
      rw [split, List.append_nil, length, h.text, List.length_append, List.length_reverse,
        List.length_cons] at longer
      omega
  | cons d lowered =>
      refine ⟨passed ++ [d], by rw [split, List.append_assoc]; rfl, ?_, List.getLast?_concat⟩
      rw [List.length_append, length]
      rfl

/-- A word that the scan finds is in the text, further to the left by one place for each dotted
capital `I` in front of it. -/
theorem exists_word (h : Position t front before lowered cs)
    (found : equalsAt before lowered = true) :
    ∃ passed word rest, t = passed ++ (word ++ rest) ∧ IsEquals passed word rest ∧
      front.length = passed.length + passed.count 'İ' := by
  obtain ⟨beginning, split, length, rfl⟩ := h.lowercase
  rw [equalsAt] at found
  split at found
  · rename_i after dropped
    obtain ⟨blank, behind⟩ := Bool.and_eq_true_iff.mp found
    rw [dropPrefix?_eq_some.mp dropped] at split
    obtain ⟨passed, word, rest, text, spelled, places, left, right⟩ :=
      Text.exists_word own_of_mem_equalsWord (by decide) split
    exact ⟨passed, word, rest, text, ⟨spelled, left blank, right behind⟩, length ▸ places⟩
  · cases found

end Position

/-! ## Splitting -/

/-- The reference of an expression is a text without the white space around it, and its value is that
of another one. -/
structure Joins (e : Expression) (front after : List Char) : Prop where
  reference : e.reference = String.ofList (trim front)
  value : valueOf (trim after) = .ok e.value

theorem between?_eq_some {front after : List Char} {operator : Operator} {e : Expression}
    (h : between? front operator after = .ok (some e)) :
    e.operator = operator ∧ Joins e front after := by
  simp only [between?] at h
  split at h
  · cases h
  · split at h
    · cases h
    · cases h
    · rename_i value _ read
      cases h
      exact ⟨rfl, rfl, by rw [valueOf_trim, read]⟩

/-- A text between two others is a spelling of an operator. -/
def Spells (front token after : List Char) (operator : Operator) : Prop :=
  (token, operator) ∈ signs ∨ operator = .equal ∧ IsEquals front token after

/-- A text is split at a spelling of the operator of an expression. -/
def Faithful (t : List Char) (e : Expression) : Prop :=
  ∃ front token after, t = front ++ (token ++ after) ∧ Spells front token after e.operator ∧
    Joins e front after

/-- A text has the word for equality in it behind `k` dotted capitals `I`, and it is split `k`
characters to the right of the word. -/
def Displaced (t : List Char) (e : Expression) (k : Nat) : Prop :=
  ∃ passed word rest, t = passed ++ (word ++ rest) ∧ IsEquals passed word rest ∧
    passed.count 'İ' = k ∧ e.operator = .equal ∧
    Joins e (t.take (passed.length + k)) (t.drop (passed.length + k + equalsWord.length))

theorem signAt?_eq_some {cs after : List Char} {operator : Operator}
    (h : signAt? cs = some (operator, after)) :
    ∃ sign, (sign, operator) ∈ signs ∧ cs = sign ++ after := by
  obtain ⟨⟨sign, op⟩, listed, found⟩ := List.exists_of_findSome?_eq_some h
  obtain ⟨rest, dropped, same⟩ := Option.map_eq_some_iff.mp found
  cases same
  exact ⟨sign, listed, dropPrefix?_eq_some.mp dropped⟩

theorem scan_split {t front lowered cs : List Char} {before : Option Char} {e : Expression}
    (position : Position t front before lowered cs)
    (h : scan front before lowered cs = .ok (some e)) :
    Faithful t e ∨ ∃ k, Displaced t e k := by
  induction cs generalizing front before lowered with
  | nil => cases h
  | cons c cs ih =>
      rw [scan] at h
      split at h
      · rename_i found
        obtain ⟨operator, joins⟩ := between?_eq_some h
        obtain ⟨passed, word, rest, split, equals, places⟩ := position.exists_word found
        refine .inr ⟨_, passed, word, rest, split, equals, rfl, operator, ?_⟩
        rw [← List.length_reverse] at places
        rw [position.text, ← places, List.take_left, ← List.drop_drop, List.drop_left]
        exact joins
      · split at h
        · cases h
        · split at h
          · rename_i operator after sign
            obtain ⟨same, joins⟩ := between?_eq_some h
            obtain ⟨token, listed, split⟩ := signAt?_eq_some sign
            refine .inl ⟨front.reverse, token, after, ?_, .inl (same ▸ listed), joins⟩
            rw [position.text, split]
          · exact ih position.next h

/-- Without dotted capitals in front of it the word for equality is where the text is split. -/
theorem Displaced.faithful {t : List Char} {e : Expression} (h : Displaced t e 0) :
    Faithful t e := by
  obtain ⟨passed, word, rest, rfl, equals, _, operator, joins⟩ := h
  refine ⟨passed, word, rest, rfl, .inr ⟨operator, equals⟩, ?_⟩
  rw [Nat.add_zero, ← equals.length, List.take_left, ← List.length_append, ← List.append_assoc,
    List.drop_left] at joins
  exact joins

/-- The front of a text without white space at its ends is followed by white space only, when it is
trimmed. -/
theorem exists_gap {t front rest : List Char} (neat : trim t = t) (split : t = front ++ rest) :
    ∃ gap, front = trim front ++ gap ∧ ∀ c ∈ gap, isBlank c = true := by
  have whole : front.dropWhile isBlank = front := by
    refine dropWhile_eq_self.mpr fun c head => stripWhere_eq_self.mp neat c (.inl ?_)
    rw [split, List.head?_append, head]
    rfl
  rw [trim, stripWhere, whole]
  exact exists_dropEndWhile isBlank front

theorem Spells.begins {front token after : List Char} {operator : Operator}
    (h : Spells front token after operator) :
    ∃ c rest, token = c :: rest ∧ (isSign c = true ∨ endsBlank front = true) := by
  rcases h with listed | ⟨_, equals⟩
  · have begins : ∀ sign ∈ signs, sign.1.head?.any isSign = true := by decide
    have here := begins _ listed
    cases token with
    | nil => cases here
    | cons c rest => exact ⟨c, rest, rfl, .inl here⟩
  · cases token with
    | nil => cases equals.length
    | cons c rest => exact ⟨c, rest, rfl, .inr equals.before⟩

/-- No operator begins between a character that shows and one with which no sign begins. -/
theorem Spells.apart {left rest front token after : List Char} {y : Char} {operator : Operator}
    (spells : Spells front token after operator) (neat : trim (left ++ y :: rest) = left ++ y :: rest)
    (ends : endsBlank left = false) (shown : isBlank y = false) (plain : isSign y = false)
    (split : left ++ y :: rest = front ++ (token ++ after)) : trim front ≠ left := by
  intro same
  obtain ⟨gap, split_front, blank⟩ := exists_gap neat split
  rw [same] at split_front
  rw [split_front, List.append_assoc, List.append_right_inj] at split
  have none_between : gap = [] := by
    cases gap with
    | nil => rfl
    | cons g gap =>
        obtain ⟨rfl, _⟩ := List.cons.inj split
        rw [blank y List.mem_cons_self] at shown
        cases shown
  rw [none_between] at split split_front
  obtain ⟨c, token', rfl, sign | behind⟩ := spells.begins
  · obtain ⟨rfl, _⟩ := List.cons.inj split
    rw [sign] at plain
    cases plain
  · rw [split_front, List.append_nil, ends] at behind
    cases behind

/-- A text that is split inside the word for equality is split at no spelling of an operator. -/
theorem Displaced.not_faithful {t : List Char} {e : Expression} {k : Nat} (neat : trim t = t)
    (h : Displaced t e k) (some_dotted : 0 < k) (few : k < equalsWord.length) :
    ¬ Faithful t e := by
  obtain ⟨passed, word, rest, split, equals, _, _, joins⟩ := h
  rintro ⟨front, token, after, split', spells, joins'⟩
  have length := equals.length
  have inside : word.take k ≠ [] := by
    rw [← List.length_pos_iff, List.length_take]
    omega
  obtain ⟨y, ys, left⟩ : ∃ y ys, word.drop k = y :: ys := by
    refine List.exists_cons_of_ne_nil ?_
    rw [← List.length_pos_iff, List.length_drop]
    omega
  have shown {c : Char} (hc : c ∈ word.take k) : isBlank c = false :=
    (equals.plain (List.mem_of_mem_take hc)).1
  obtain ⟨next, plain⟩ : isBlank y = false ∧ isSign y = false :=
    equals.plain (List.mem_of_mem_drop (left ▸ List.mem_cons_self))
  have ends : endsBlank (passed ++ word.take k) = false := by
    rw [endsBlank_append inside, endsBlank, List.getLast?_eq_some_getLast inside, Option.all_some]
    exact shown (List.getLast_mem inside)
  have cut : t = passed ++ word.take k ++ y :: (ys ++ rest) := by
    have whole : word.take k ++ y :: ys = word := left ▸ List.take_append_drop k word
    calc t = passed ++ ((word.take k ++ y :: ys) ++ rest) := by rw [whole, split]
      _ = passed ++ word.take k ++ y :: (ys ++ rest) := by simp
  -- what the text is split behind ends with letters of the word, so it is its own trimming
  have own : trim (passed ++ word.take k) = passed ++ word.take k := by
    refine trim_append_of_prefix neat ⟨_, split.symm⟩ (stripWhere_eq_self.mpr ?_) inside
    rintro c (head | last)
    · exact shown (List.mem_of_head? head)
    · exact shown (List.mem_of_getLast? last)
  have reference := joins.reference
  rw [split, List.take_length_add_append, List.take_append_of_le_length (by omega), own] at reference
  have same : trim front = passed ++ word.take k :=
    String.ofList_injective (joins'.reference.symm.trans reference)
  exact spells.apart (cut ▸ neat) ends next plain (cut ▸ split') same

/-- An expression that is read is split at a spelling of its operator, with the texts on both sides
for its reference and its value, unless its operator is the word for equality with dotted capitals `I`
in front of it. Then the text is split as many characters further to the right, and while this is
inside the word, there is no spelling of the operator at which the text could be split. -/
theorem parse?_split {expr : List Char} {e : Expression} (h : parse? expr = .ok (some e)) :
    (Faithful (trim expr) e ∨ ∃ k, 0 < k ∧ Displaced (trim expr) e k) ∧
      ∀ k, 0 < k → k < equalsWord.length → Displaced (trim expr) e k →
        ¬ Faithful (trim expr) e := by
  refine ⟨?_, fun k some_dotted few displaced =>
    displaced.not_faithful (trim_trim expr) some_dotted few⟩
  rcases scan_split (Position.start (trim expr)) h with faithful | ⟨k, displaced⟩
  · exact .inl faithful
  · cases k with
    | zero => exact .inl displaced.faithful
    | succ k => exact .inr ⟨k + 1, Nat.succ_pos k, displaced⟩

theorem parse?_split_visit :
    parse? " Will you come? EQUALS > 5".toList =
        .ok (some ⟨"Will you come?", .equal, .text "> 5"⟩) ∧
      Faithful "Will you come? EQUALS > 5".toList ⟨"Will you come?", .equal, .text "> 5"⟩ := by
  have read : parse? " Will you come? EQUALS > 5".toList =
      .ok (some ⟨"Will you come?", .equal, .text "> 5"⟩) := by rfl
  have neat : trim " Will you come? EQUALS > 5".toList = "Will you come? EQUALS > 5".toList := by
    decide
  refine ⟨read, ?_⟩
  obtain ⟨split_at, _⟩ := parse?_split read
  rcases split_at with faithful | ⟨k, some_dotted, passed, word, rest, split, _, same, _⟩
  · rwa [neat] at faithful
  · have undotted : passed.count 'İ' ≤ "Will you come? EQUALS > 5".toList.count 'İ' := by
      rw [← neat, split, List.count_append]
      exact Nat.le_add_right _ _
    have none_there : "Will you come? EQUALS > 5".toList.count 'İ' = 0 := by decide
    omega

/-- With a dotted capital `I` in front of it, the word for equality loses its first letter to the
reference. -/
theorem not_faithful_dotted :
    parse? "İ equals 5".toList = .ok (some ⟨"İ e", .equal, .number (.int 5)⟩) ∧
      ¬ Faithful (trim "İ equals 5".toList) ⟨"İ e", .equal, .number (.int 5)⟩ := by
  refine ⟨by rfl, ?_⟩
  have neat : trim "İ equals 5".toList = "İ equals 5".toList := by decide
  have displaced : Displaced "İ equals 5".toList ⟨"İ e", .equal, .number (.int 5)⟩ 1 := by
    refine ⟨"İ ".toList, "equals".toList, " 5".toList, rfl, ⟨?_, rfl, rfl⟩, rfl, rfl, ⟨?_, ?_⟩⟩
    · decide
    · decide
    · rfl
  rw [neat]
  exact displaced.not_faithful neat (by decide) (by decide)

end PromptForm.Expression
