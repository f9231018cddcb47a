import Mathlib.Data.List.DropRight
import PromptForm.Text.Case
import PromptForm.Text.Search

/-! # Lines and parts of a text

A text keeps its ends exactly when none of them is to be stripped. Lines that are joined are split
into the same lines again, and so are parts.
-/

namespace PromptForm.Text

/-- What is true of each basic character is true of one that is known to be basic. -/
theorem forall_basic {P : Char → Prop} (each : ∀ n < 128, P (Char.ofNat n)) {c : Char}
    (basic : c.toNat < 128) : P c :=
  Char.ofNat_toNat c ▸ each c.toNat basic

/-- A character stands at an end of a text. -/
def AtEnd (c : Char) (cs : List Char) : Prop := cs.head? = some c ∨ cs.getLast? = some c

theorem dropWhile_eq_self {p : Char → Bool} {cs : List Char} :
    cs.dropWhile p = cs ↔ ∀ c, cs.head? = some c → p c = false := by
  cases cs with
  | nil => simp
  | cons c rest => simp [List.dropWhile_eq_self_iff]

theorem dropEndWhile_eq_self {p : Char → Bool} {cs : List Char} :
    dropEndWhile p cs = cs ↔ ∀ c, cs.getLast? = some c → p c = false := by
  rw [dropEndWhile, List.reverse_eq_iff, dropWhile_eq_self, List.head?_reverse]

theorem dropEndWhile_isPrefix (p : Char → Bool) (cs : List Char) : dropEndWhile p cs <+: cs :=
  List.rdropWhile_prefix p cs

theorem exists_dropEndWhile (p : Char → Bool) (cs : List Char) :
    ∃ tail, cs = dropEndWhile p cs ++ tail ∧ ∀ c ∈ tail, p c = true := by
  refine ⟨(cs.reverse.takeWhile p).reverse, ?_, fun c hc => ?_⟩
  · rw [dropEndWhile, ← List.reverse_append, List.takeWhile_append_dropWhile, List.reverse_reverse]
  · exact List.mem_takeWhile_imp (List.mem_reverse.mp hc)

theorem stripWhere_sublist (p : Char → Bool) (cs : List Char) : (stripWhere p cs).Sublist cs :=
  (dropEndWhile_isPrefix p _).sublist.trans (List.dropWhile_sublist p)

/-- A text is its own stripping exactly when no character at its ends is to be stripped. -/
theorem stripWhere_eq_self {p : Char → Bool} {cs : List Char} :
    stripWhere p cs = cs ↔ ∀ c, AtEnd c cs → p c = false := by
  constructor
  · intro same
    have front : cs.dropWhile p = cs := by
      refine (List.dropWhile_sublist p).eq_of_length_le ?_
      calc cs.length = (stripWhere p cs).length := by rw [same]
        _ ≤ (cs.dropWhile p).length := (dropEndWhile_isPrefix p _).length_le
    rw [stripWhere, front] at same
    rintro c (head | last)
    · exact dropWhile_eq_self.mp front c head
    · exact dropEndWhile_eq_self.mp same c last
  · intro keep
    rw [stripWhere, dropWhile_eq_self.mpr fun c head => keep c (.inl head),
      dropEndWhile_eq_self.mpr fun c last => keep c (.inr last)]

theorem trim_of_forall {cs : List Char} (shown : ∀ c ∈ cs, isBlank c = false) : trim cs = cs := by
  refine stripWhere_eq_self.mpr fun c ends => shown c ?_
  rcases ends with head | last
  · exact List.mem_of_mem_head? head
  · exact List.mem_of_mem_getLast? last

theorem keeps_of_atEnd_stripWhere {p : Char → Bool} {cs : List Char} {c : Char}
    (h : AtEnd c (stripWhere p cs)) : p c = false := by
  rcases h with head | last
  · obtain ⟨rest, split⟩ := List.head?_eq_some_iff.mp head
    obtain ⟨dropped, whole⟩ : stripWhere p cs <+: cs.dropWhile p := dropEndWhile_isPrefix p _
    rw [split, List.cons_append] at whole
    exact dropWhile_eq_self.mp (List.dropWhile_idempotent p cs) c (by rw [← whole, List.head?_cons])
  · exact dropEndWhile_eq_self.mp (List.rdropWhile_idempotent p (cs.dropWhile p)) c last

theorem dropWhile_past {p : Char → Bool} {x : Char} (keep : p x = false) (front rest : List Char) :
    (front ++ x :: rest).dropWhile p = front.dropWhile p ++ x :: rest := by
  induction front with
  | nil => rw [List.nil_append, List.dropWhile_cons_of_neg (ne_true_of_eq_false keep)]; rfl
  | cons c front ih =>
      cases drop : p c with
      | true => rw [List.cons_append, List.dropWhile_cons_of_pos drop, ih,
          List.dropWhile_cons_of_pos drop]
      | false => rw [List.cons_append, List.dropWhile_cons_of_neg (ne_true_of_eq_false drop),
          List.dropWhile_cons_of_neg (ne_true_of_eq_false drop), List.cons_append]

theorem dropEndWhile_past {p : Char → Bool} {x : Char} (keep : p x = false)
    (front rest : List Char) :
    dropEndWhile p (front ++ x :: rest) = front ++ x :: dropEndWhile p rest := by
  have turned : (front ++ x :: rest).reverse = rest.reverse ++ x :: front.reverse := by simp
  rw [dropEndWhile, turned, dropWhile_past keep, dropEndWhile]
  simp

/-- Stripping a text keeps what is not to be stripped and everything between. -/
theorem stripWhere_past {p : Char → Bool} {x : Char} (keep : p x = false)
    (front rest : List Char) :
    stripWhere p (front ++ x :: rest) = front.dropWhile p ++ x :: dropEndWhile p rest := by
  rw [stripWhere, dropWhile_past keep, dropEndWhile_past keep]

theorem mem_dropWhile {p : Char → Bool} {x : Char} (keep : p x = false) {cs : List Char}
    (h : x ∈ cs) : x ∈ cs.dropWhile p := by
  obtain ⟨front, rest, rfl⟩ := List.append_of_mem h
  rw [dropWhile_past keep]
  exact List.mem_append_right _ List.mem_cons_self

theorem mem_stripWhere {p : Char → Bool} {x : Char} (keep : p x = false) {cs : List Char}
    (h : x ∈ cs) : x ∈ stripWhere p cs := by
  obtain ⟨front, rest, rfl⟩ := List.append_of_mem h
  rw [stripWhere_past keep]
  exact List.mem_append_right _ List.mem_cons_self

theorem trim_trim (cs : List Char) : trim (trim cs) = trim cs :=
  stripWhere_eq_self.mpr fun _ h => keeps_of_atEnd_stripWhere h

/-- A text that begins like one without white space at its ends and ends in another one has no white
space at its ends. -/
theorem trim_append_of_prefix {cs stem tail : List Char} (neat : trim cs = cs) (begins : stem <+: cs)
    (neat_tail : trim tail = tail) (filled : tail ≠ []) : trim (stem ++ tail) = stem ++ tail := by
  refine stripWhere_eq_self.mpr fun c ends => ?_
  rcases ends with head | last
  · cases stem with
    | nil => exact stripWhere_eq_self.mp neat_tail c (.inl head)
    | cons d stem =>
        obtain ⟨rest, rfl⟩ := begins
        exact stripWhere_eq_self.mp neat c (.inl head)
  · rw [List.getLast?_append_of_ne_nil stem filled] at last
    exact stripWhere_eq_self.mp neat_tail c (.inr last)

/-- A text that begins and ends with texts without white space at their ends has none at its own. -/
theorem trim_between {first last : List Char} (neat : trim first = first) (filled : first ≠ [])
    (neat_last : trim last = last) (filled_last : last ≠ []) (middle : List Char) :
    trim (first ++ (middle ++ last)) = first ++ (middle ++ last) := by
  refine stripWhere_eq_self.mpr fun c ends => ?_
  rcases ends with head | tail
  · rw [List.head?_append_of_ne_nil first filled] at head
    exact stripWhere_eq_self.mp neat c (.inl head)
  · rw [← List.append_assoc, List.getLast?_append_of_ne_nil _ filled_last] at tail
    exact stripWhere_eq_self.mp neat_last c (.inr tail)

theorem dropEndWhile_append_of_pos {p : Char → Bool} {tail : List Char} (h : ∀ c ∈ tail, p c = true)
    (cs : List Char) : dropEndWhile p (cs ++ tail) = dropEndWhile p cs := by
  rw [dropEndWhile, dropEndWhile, List.reverse_append, List.dropWhile_append_of_pos]
  exact fun c hc => h c (List.mem_reverse.mp hc)

/-- White space around a text is trimmed with it. -/
theorem trim_padded {lead trail : List Char} (before : ∀ c ∈ lead, isBlank c = true)
    (behind : ∀ c ∈ trail, isBlank c = true) (cs : List Char) :
    trim (lead ++ (cs ++ trail)) = trim cs := by
  rw [trim, stripWhere, List.dropWhile_append_of_pos before, List.dropWhile_append]
  split
  · rename_i blank
    rw [List.isEmpty_iff] at blank
    rw [List.dropWhile_eq_nil_iff.mpr behind, trim, stripWhere, blank]
  · rw [dropEndWhile_append_of_pos behind, trim, stripWhere]

/-- White space around a text is trimmed. -/
theorem trim_around {x y : Char} (first : isBlank x = false) (last : isBlank y = false)
    (lead cs trail : List Char) (before : lead.all isBlank = true)
    (behind : trail.all isBlank = true) :
    trim (lead ++ x :: (cs ++ y :: trail)) = x :: (cs ++ [y]) := by
  have regroup : lead ++ x :: (cs ++ y :: trail) = lead ++ (x :: (cs ++ [y]) ++ trail) := by simp
  rw [regroup, trim_padded (List.all_eq_true.mp before) (List.all_eq_true.mp behind)]
  refine stripWhere_eq_self.mpr fun c ends => ?_
  rcases ends with head | final
  · cases head
    exact first
  · rw [← List.cons_append, List.getLast?_concat] at final
    cases final
    exact last

/-! ## Lines -/

/-- A text is free of what a test finds if the test, run over it, finds nothing. -/
theorem forall_of_all {p : Char → Bool} {cs : List Char} (h : cs.all (!p ·) = true) :
    ∀ c ∈ cs, p c = false := by
  simpa using h

theorem splitLinesFrom_append {cs : List Char} (h : ∀ c ∈ cs, isLineEnd c = false)
    (line rest : List Char) : splitLinesFrom line (cs ++ rest) =
      splitLinesFrom (cs.reverse ++ line) rest := by
  induction cs generalizing line with
  | nil => rfl
  | cons c cs ih =>
      obtain ⟨inside, others⟩ := List.forall_mem_cons.mp h
      have step : splitLinesFrom line (c :: (cs ++ rest)) = splitLinesFrom (c :: line) (cs ++ rest) := by
        rw [splitLinesFrom, if_neg (ne_true_of_eq_false inside)]
        rintro rest' rfl
        cases inside
      rw [List.cons_append, step, ih others, List.reverse_cons, List.append_assoc]
      rfl

theorem splitLinesFrom_newline (line rest : List Char) :
    splitLinesFrom line ('\n' :: rest) = line.reverse :: splitLines rest := by
  rw [splitLinesFrom, if_pos (by decide), splitLines]
  rintro _ ⟨⟩

/-- Lines that are joined are split into the same lines. -/
theorem splitLines_join {lines : List (List Char)} (filled : ∀ l ∈ lines, l ≠ [])
    (inside : ∀ l ∈ lines, ∀ c ∈ l, isLineEnd c = false) :
    splitLines (join ['\n'] lines) = lines := by
  induction lines with
  | nil => rfl
  | cons line rest ih =>
      obtain ⟨here, later⟩ := List.forall_mem_cons.mp inside
      obtain ⟨some_here, some_later⟩ := List.forall_mem_cons.mp filled
      cases rest with
      | nil =>
          rw [join, List.intercalate_singleton, splitLines, ← line.append_nil,
            splitLinesFrom_append here, splitLinesFrom, if_neg]
          · simp
          · simpa using some_here
      | cons next rest =>
          have joined : join ['\n'] (line :: next :: rest) =
              line ++ '\n' :: join ['\n'] (next :: rest) := by
            simp [join, List.intercalate_cons_cons]
          rw [joined, splitLines, splitLinesFrom_append here, splitLinesFrom_newline,
            List.append_nil, List.reverse_reverse, ih some_later later]

/-! ## Parts -/

theorem splitOn_eq (separator : Char) (cs : List Char) :
    splitOn separator cs = cs.splitOn separator := by
  induction cs with
  | nil => rfl
  | cons c rest ih =>
      rw [splitOn, List.splitOn_cons_eq_if_modifyHead, ih]
      simp only [beq_iff_eq]
      cases parts : rest.splitOn separator with
      | nil => exact absurd parts (List.splitOn_ne_nil separator rest)
      | cons => rfl

theorem not_mem_of_mem_splitOn {separator : Char} {cs part : List Char}
    (h : part ∈ splitOn separator cs) : separator ∉ part := by
  induction cs generalizing part with
  | nil => simp_all [splitOn]
  | cons c rest ih =>
      rw [splitOn] at h
      split at h
      · rcases List.mem_cons.mp h with rfl | later
        · simp
        · exact ih later
      · rename_i other
        cases parts : splitOn separator rest with
        | nil =>
            rw [splitOn_eq] at parts
            exact absurd parts (List.splitOn_ne_nil separator rest)
        | cons first others =>
            simp only [parts, List.mem_cons, forall_eq_or_imp] at h ih
            rcases h with rfl | later
            · simp [ih.1, Ne.symm other]
            · exact ih.2 _ later

/-- Parts that are joined are split into the same parts, if the separator is in none of them. -/
theorem splitOn_join {separator : Char} {parts : List (List Char)} (some_part : parts ≠ [])
    (h : ∀ part ∈ parts, separator ∉ part) : splitOn separator (join [separator] parts) = parts := by
  rw [splitOn_eq, join, List.splitOn_intercalate separator h some_part]

theorem mem_join_of_mem {x : Char} (separator : List Char) {parts : List (List Char)}
    {part : List Char} (h : part ∈ parts) (hx : x ∈ part) : x ∈ join separator parts := by
  induction parts with
  | nil => cases h
  | cons first rest ih =>
      cases rest with
      | nil => simp_all [join]
      | cons next rest =>
          rw [join] at ih ⊢
          rw [List.intercalate_cons_cons, List.mem_append, List.mem_append]
          rcases List.mem_cons.mp h with rfl | later
          · exact .inl (.inl hx)
          · exact .inr (ih later)

theorem mem_join {x : Char} {separator : List Char} (outside : x ∉ separator)
    {parts : List (List Char)} : x ∈ join separator parts ↔ ∃ part ∈ parts, x ∈ part := by
  induction parts with
  | nil => simp [join]
  | cons part rest ih =>
      cases rest with
      | nil => simp [join]
      | cons next rest =>
          rw [join] at ih ⊢
          rw [List.intercalate_cons_cons, List.mem_append, List.mem_append, or_iff_left outside, ih]
          simp

theorem join_splitOn (separator : Char) (cs : List Char) :
    join [separator] (splitOn separator cs) = cs := by
  rw [splitOn_eq, join, List.intercalate_splitOn]

theorem splitOn_of_not_mem {separator : Char} {cs : List Char} (h : separator ∉ cs) :
    splitOn separator cs = [cs] := by
  have outside : ∀ part ∈ [cs], separator ∉ part := by simpa using h
  have joined := splitOn_join (List.cons_ne_nil cs []) outside
  rwa [join, List.intercalate_singleton] at joined

/-- Parts that are separated by a comma and a space are separated by a comma, each with a space in
front. -/
theorem join_comma_space {parts : List (List Char)} (h : parts ≠ []) :
    ' ' :: join [',', ' '] parts = join [','] (parts.map (' ' :: ·)) := by
  induction parts with
  | nil => exact absurd rfl h
  | cons part rest ih =>
      cases rest with
      | nil => simp [join]
      | cons next rest =>
          have later := ih (List.cons_ne_nil next rest)
          rw [join, join] at later ⊢
          rw [List.intercalate_cons_cons, List.map_cons, List.map_cons, List.intercalate_cons_cons,
            ← List.map_cons, ← later]
          simp

/-! ## Words -/

theorem firstMatch_of_here {α : Type} {here : Option Char → List Char → Option α}
    {before : Option Char} {cs : List Char} {answer : α} (h : here before cs = some answer) :
    firstMatch here before cs = some answer := by
  cases cs with
  | nil => exact h
  | cons c rest => rw [firstMatch, h]

/-- A word is read in front of a character that is in no case a letter of it as in front of the
end of a text. -/
theorem dropWord?_append {word : List Char} {x : Char} (other : ∀ p ∈ word, sameLetter p x = false)
    (cs rest : List Char) :
    dropWord? word (cs ++ x :: rest) = (dropWord? word cs).map (· ++ x :: rest) := by
  induction word generalizing cs with
  | nil => cases cs <;> rfl
  | cons p word ih =>
      obtain ⟨here, later⟩ := List.forall_mem_cons.mp other
      cases cs with
      | nil => simp [dropWord?, here]
      | cons c cs =>
          rw [List.cons_append, dropWord?, dropWord?]
          split
          · exact ih later cs
          · rfl

theorem dropWord?_of_toLower {word cs : List Char} (h : cs.map Char.toLower = word) :
    dropWord? word cs = some [] := by
  subst h
  induction cs with
  | nil => rfl
  | cons c cs ih => simp [dropWord?, sameLetter, ih]

theorem dropWord?_suffix {word cs rest : List Char} (h : dropWord? word cs = some rest) :
    rest <:+ cs := by
  induction word generalizing cs with
  | nil =>
      cases h
      exact List.suffix_rfl
  | cons p word ih =>
      cases cs with
      | nil => cases h
      | cons c cs =>
          rw [dropWord?] at h
          split at h
          · exact (ih h).trans (List.suffix_cons c cs)
          · cases h

theorem dropPrefix?_eq_some {needle cs rest : List Char} :
    dropPrefix? needle cs = some rest ↔ cs = needle ++ rest := by
  induction needle generalizing cs with
  | nil => simp [dropPrefix?]
  | cons n needle ih =>
      cases cs with
      | nil => simp [dropPrefix?]
      | cons c cs =>
          rw [dropPrefix?]
          split
          · rename_i same
            simp [ih, same]
          · rename_i other
            simp [Ne.symm other]

/-- What begins with a needle is read in front of a character that is not in the needle as in front
of the end of a text. -/
theorem dropPrefix?_past {needle : List Char} {x : Char} (other : x ∉ needle)
    (cs rest : List Char) :
    dropPrefix? needle (cs ++ x :: rest) = (dropPrefix? needle cs).map (· ++ x :: rest) := by
  induction needle generalizing cs with
  | nil => cases cs <;> rfl
  | cons n needle ih =>
      rw [List.mem_cons, not_or] at other
      obtain ⟨here, later⟩ := other
      cases cs with
      | nil => simp [dropPrefix?, Ne.symm here]
      | cons c cs =>
          rw [List.cons_append, dropPrefix?, dropPrefix?]
          split
          · exact ih later cs
          · rfl

/-! ## The first occurrence -/

theorem splitAtFirst?_eq {needle cs front back : List Char}
    (h : splitAtFirst? needle cs = some (front, back)) : cs = front ++ (needle ++ back) := by
  induction cs generalizing front with
  | nil =>
      obtain ⟨rest, found, same⟩ := Option.map_eq_some_iff.mp h
      cases same
      have whole := dropPrefix?_eq_some.mp found
      exact whole
  | cons c cs ih =>
      rw [splitAtFirst?] at h
      split at h
      · rename_i rest found
        cases h
        rw [dropPrefix?_eq_some.mp found, List.nil_append]
      · obtain ⟨⟨front, rest⟩, later, same⟩ := Option.map_eq_some_iff.mp h
        cases same
        rw [List.cons_append, ← ih later]

/-- A needle does not reach over a character that is not in it. -/
theorem splitAtFirst?_past {needle : List Char} {x : Char} (other : x ∉ needle)
    (cs rest : List Char) : splitAtFirst? needle (cs ++ x :: rest) =
      match splitAtFirst? needle cs with
      | some (front, back) => some (front, back ++ x :: rest)
      | none => (splitAtFirst? needle rest).map fun (front, back) => (cs ++ x :: front, back) := by
  induction cs with
  | nil =>
      have here := dropPrefix?_past other [] rest
      rw [List.nil_append] at here
      simp only [List.nil_append, splitAtFirst?, here]
      cases dropPrefix? needle [] <;> rfl
  | cons c cs ih =>
      have here := dropPrefix?_past other (c :: cs) rest
      rw [List.cons_append] at here
      simp only [List.cons_append, splitAtFirst?, here]
      cases dropPrefix? needle (c :: cs) with
      | some back => rfl
      | none =>
          simp only [Option.map_none, ih]
          cases splitAtFirst? needle cs with
          | some found => rfl
          | none => cases splitAtFirst? needle rest <;> rfl

end PromptForm.Text
