import PromptForm.Json.Reader

/-! # Reading in front of more text

A reader of JSON text goes from front to back. It looks past a value only to see whether a number
goes on, so it reads a list or an object in the same way whatever follows. Main statements: an
object with more text behind it is JSON only if that is white space, and nothing that an object
begins with is JSON.
-/

namespace PromptForm.Json

variable {α β : Type}

/-- What becomes of the outcome `short` of a reader when `tail` is put behind its text: a value with
a rest that satisfies `p` stays, and so does a refusal of too many levels. Other refusals may become
anything. -/
structure Extends (p : List Char → Prop) (tail : List Char)
    (short long : Except JsonError (α × List Char)) : Prop where
  read : ∀ a rest, short = .ok (a, rest) → p rest → long = .ok (a, rest ++ tail)
  nested : ∀ e, short = .error (.tooNested e) → long = .error (.tooNested e)

namespace Extends

variable {p q : List Char → Prop} {tail : List Char}

theorem refused {long : Except JsonError (α × List Char)} {flaw : JsonFlaw} {n : Nat} :
    Extends p tail (.error (.malformed flaw n)) long := ⟨nofun, nofun⟩

theorem value (a : α) (rest : List Char) :
    Extends p tail (.ok (a, rest)) (.ok (a, rest ++ tail)) where
  read a' rest' h _ := by
    cases h
    rfl
  nested := nofun

theorem tooNested (e : TooNested) : Extends p tail
    (.error (.tooNested e) : Except JsonError (α × List Char)) (.error (.tooNested e)) :=
  ⟨nofun, fun _ same => same⟩

theorem bind {short long : Except JsonError (α × List Char)}
    {f g : α × List Char → Except JsonError (β × List Char)} (h : Extends p tail short long)
    (kept : ∀ a rest, p rest → Extends q tail (f (a, rest)) (g (a, rest ++ tail)))
    (lost : ∀ a rest, ¬ p rest → ∃ flaw n, f (a, rest) = .error (.malformed flaw n)) :
    Extends q tail (short >>= f) (long >>= g) := by
  cases short with
  | error e =>
      refine ⟨nofun, fun nested same => ?_⟩
      cases same
      rw [h.nested nested rfl]
      rfl
  | ok first =>
      obtain ⟨a, rest⟩ := first
      by_cases hp : p rest
      · rw [h.read a rest rfl hp]
        exact kept a rest hp
      · obtain ⟨flaw, n, same⟩ := lost a rest hp
        have refuses : (Except.ok (a, rest) >>= f) = .error (.malformed flaw n) := same
        rw [refuses]
        exact refused

theorem weaken {short long : Except JsonError (α × List Char)} (h : Extends p tail short long)
    (weaker : ∀ rest, q rest → p rest) : Extends q tail short long where
  read a rest same hq := h.read a rest same (weaker rest hq)
  nested := h.nested

end Extends

/-! ## Texts -/

theorem readChars_extends (opening opening' : Nat) (high : Option Nat) (done cs tail : List Char) :
    Extends (fun _ => True) tail (readChars opening high done cs)
      (readChars opening' high done (cs ++ tail)) := by
  fun_induction readChars opening high done cs with
  | case1 => exact .refused
  | case2 high done rest =>
    rw [List.cons_append, readChars]
    exact .value _ _
  | case3 => exact .refused
  | case4 high done a b c d rest unit known short => exact .refused
  | case5 high done a b c d rest unit known more high' done' added ih =>
    have some_more : (rest ++ tail).isEmpty = false := by
      cases rest with
      | nil => exact absurd rfl more
      | cons => rfl
    simp only [List.cons_append, readChars, known, some_more, added]
    exact ih
  | case6 => exact .refused
  | case7 high done e rest other c known ih =>
    have letter : e ≠ 'u' := by
      rintro rfl
      cases known
    rw [List.cons_append, List.cons_append, readChars, known]
    · exact ih
    · exact fun _ _ _ _ _ same => absurd same letter
  | case8 => exact .refused
  | case9 => exact .refused
  | case10 => exact .refused
  | case11 high done c rest quote alone _ escape control ih =>
    have plain : c ≠ '\\' := by
      rintro rfl
      cases rest with
      | nil => exact alone rfl rfl
      | cons e rest => exact escape e rest rfl rfl
    rw [List.cons_append, readChars, if_neg control]
    · exact ih
    · exact quote
    · exact fun same => absurd same plain
    · exact fun _ _ _ _ _ same => absurd same plain
    · exact fun _ _ same => absurd same plain

/-! ## Numbers and words -/

/-- A text that no number in front of it goes on into. -/
def EndsNumber (rest : List Char) : Prop :=
  ∃ c after, rest = c :: after ∧ c ≠ '.' ∧ c ≠ 'e' ∧ c ≠ 'E'

theorem span_append {p : Char → Bool} {cs : List Char} (stops : cs.dropWhile p ≠ [])
    (tail : List Char) : (cs ++ tail).takeWhile p = cs.takeWhile p ∧
      (cs ++ tail).dropWhile p = cs.dropWhile p ++ tail := by
  constructor
  · rw [List.takeWhile_append, if_neg]
    intro whole
    have sizes := congrArg List.length (List.takeWhile_append_dropWhile (p := p) (l := cs))
    rw [List.length_append, whole] at sizes
    exact stops (List.length_eq_zero_iff.mp (by omega))
  · rw [List.dropWhile_append, if_neg (by simpa using stops)]

theorem splitSign_append {cs : List Char} (filled : cs ≠ []) (tail : List Char) :
    Numeral.splitSign (cs ++ tail) =
      ((Numeral.splitSign cs).1, (Numeral.splitSign cs).2 ++ tail) := by
  cases cs with
  | nil => exact absurd rfl filled
  | cons c rest =>
      by_cases minus : c = '-'
      · subst minus
        rfl
      · by_cases plus : c = '+'
        · subst plus
          rfl
        · simp [Numeral.splitSign, minus, plus]

theorem readFraction?_append {cs digits rest : List Char}
    (h : readFraction? cs = some (digits, rest)) (stops : rest ≠ []) (tail : List Char) :
    readFraction? (cs ++ tail) = some (digits, rest ++ tail) := by
  unfold readFraction? at h
  split at h
  · rename_i body
    simp only [Option.ite_none_left_eq_some, Option.some.injEq, Prod.mk.injEq] at h
    obtain ⟨filled, rfl, rfl⟩ := h
    obtain ⟨digits, after⟩ := span_append stops tail
    simp only [List.cons_append, readFraction?, digits, after]
    exact if_neg filled
  · cases h

theorem readFraction?_eq_none {c : Char} (other : c ≠ '.') (rest : List Char) :
    readFraction? (c :: rest) = none := by
  unfold readFraction?
  split
  · rename_i same
    exact absurd (List.cons.inj same).1 other
  · rfl

theorem readPower?_append {cs rest : List Char} {power : Int}
    (h : readPower? cs = some (power, rest)) (stops : rest ≠ []) (tail : List Char) :
    readPower? (cs ++ tail) = some (power, rest ++ tail) := by
  cases cs with
  | nil => cases h
  | cons mark body =>
      simp only [readPower?, Option.ite_none_right_eq_some, Option.some.injEq, Prod.mk.injEq] at h
      obtain ⟨filled, rfl, rfl⟩ := h
      have some_body : body ≠ [] := by
        rintro rfl
        simp [Numeral.splitSign] at filled
      obtain ⟨digits, after⟩ := span_append stops tail
      simp only [List.cons_append, readPower?, splitSign_append some_body, digits, after]
      exact if_pos filled

theorem readPower?_eq_none {c : Char} (small : c ≠ 'e') (capital : c ≠ 'E') (rest : List Char) :
    readPower? (c :: rest) = none := by
  simp [readPower?, small, capital]

/-- Where an exponent comes next, no fraction does. -/
theorem readFraction?_of_power {cs : List Char} {read : Int × List Char}
    (h : readPower? cs = some read) : readFraction? cs = none := by
  cases cs with
  | nil => rfl
  | cons mark rest =>
      refine readFraction?_eq_none (fun point => ?_) rest
      subst point
      cases h

theorem drop_takeWhile (p : Char → Bool) (cs : List Char) :
    cs.drop (cs.takeWhile p).length = cs.dropWhile p := by
  induction cs with
  | nil => rfl
  | cons c cs ih => cases keep : p c <;> simp [keep, ih]

theorem wholeDigits_of_ne {c : Char} (zero : c ≠ '0') (rest : List Char) :
    wholeDigits (c :: rest) = (c :: rest).takeWhile Char.isDigit := by
  simp [wholeDigits, zero]

theorem wholeDigits_append {cs : List Char} (filled : wholeDigits cs ≠ [])
    (stops : cs.drop (wholeDigits cs).length ≠ []) (tail : List Char) :
    wholeDigits (cs ++ tail) = wholeDigits cs ∧
      (cs ++ tail).drop (wholeDigits cs).length = cs.drop (wholeDigits cs).length ++ tail := by
  have long := List.length_pos_iff.mpr stops
  rw [List.length_drop] at long
  refine ⟨?_, List.drop_append_of_le_length (by omega)⟩
  cases cs with
  | nil => exact absurd rfl filled
  | cons c rest =>
      by_cases zero : c = '0'
      · simp [wholeDigits, zero]
      · rw [wholeDigits_of_ne zero, drop_takeWhile] at stops
        rw [List.cons_append, wholeDigits_of_ne zero, wholeDigits_of_ne zero, ← List.cons_append,
          (span_append stops tail).1]

theorem readUnsigned_ne_nested (negative : Bool) (start cs : List Char) (e : TooNested) :
    readUnsigned negative start cs ≠ .error (.tooNested e) := by
  intro h
  simp only [readUnsigned] at h
  split at h
  · cases h
  · split at h
    · split at h <;> cases h
    all_goals cases h

theorem readUnsigned_extends (negative : Bool) (start start' cs tail : List Char) :
    Extends EndsNumber tail (readUnsigned negative start cs)
      (readUnsigned negative start' (cs ++ tail)) where
  read v rest h ends := by
    obtain ⟨c, after, rfl, point, small, capital⟩ := ends
    simp only [readUnsigned] at h ⊢
    split at h
    · cases h
    · rename_i filled
      have stops : cs.drop (wholeDigits cs).length ≠ [] := by
        intro nothing
        simp only [nothing] at h
        simp only [readFraction?, Option.map_none, Option.getD_none, readPower?] at h
        split at h <;> cases h
      obtain ⟨whole, body⟩ := wholeDigits_append (by simpa using filled) stops tail
      rw [whole, body, if_neg filled]
      generalize cs.drop (wholeDigits cs).length = body at h stops
      split at h
      · rename_i no_fraction no_power
        split at h
        · rename_i n read
          obtain ⟨rfl, rfl⟩ := Prod.mk.inj (Except.ok.inj h)
          rw [List.cons_append, readFraction?_eq_none point, Option.map_none, Option.getD_none,
            readPower?_eq_none small capital]
        · cases h
      · rename_i fraction later found no_power
        obtain ⟨rfl, rfl⟩ := Prod.mk.inj (Except.ok.inj h)
        rw [readFraction?_append found (List.cons_ne_nil c after), Option.map_some,
          Option.getD_some, List.cons_append, readPower?_eq_none small capital]
      · rename_i power later no_fraction found
        obtain ⟨rfl, rfl⟩ := Prod.mk.inj (Except.ok.inj h)
        rw [no_fraction, Option.map_none, Option.getD_none] at found
        have found' := readPower?_append found (List.cons_ne_nil c after) tail
        rw [readFraction?_of_power found', Option.map_none, Option.getD_none, found']
      · rename_i fraction middle power later found found'
        obtain ⟨rfl, rfl⟩ := Prod.mk.inj (Except.ok.inj h)
        rw [found, Option.map_some, Option.getD_some] at found'
        have more : middle ≠ [] := by
          rintro rfl
          cases found'
        rw [readFraction?_append found more, Option.map_some, Option.getD_some,
          readPower?_append found' (List.cons_ne_nil c after)]
  nested e h := absurd h (readUnsigned_ne_nested negative start cs e)

theorem readNumber_extends (cs tail : List Char) :
    Extends EndsNumber tail (readNumber cs) (readNumber (cs ++ tail)) := by
  cases cs with
  | nil => exact .refused
  | cons c rest =>
      by_cases minus : c = '-'
      · subst minus
        exact readUnsigned_extends true _ _ rest tail
      · have unsigned (more : List Char) :
            readNumber (c :: more) = readUnsigned false (c :: more) (c :: more) := by
          simp [readNumber, minus]
        rw [List.cons_append, unsigned, unsigned]
        exact readUnsigned_extends false _ _ (c :: rest) tail

/-- A text that begins with a digit, perhaps after a sign. -/
def BeginsNumber (cs : List Char) : Prop :=
  ∃ d after, d.isDigit = true ∧ (cs = d :: after ∨ cs = '-' :: d :: after)

theorem wholeDigits_head {cs : List Char} (filled : wholeDigits cs ≠ []) :
    ∃ d after, d.isDigit = true ∧ cs = d :: after := by
  cases cs with
  | nil => exact absurd rfl filled
  | cons c rest =>
      refine ⟨c, rest, ?_, rfl⟩
      by_cases zero : c = '0'
      · subst zero
        rfl
      · refine Classical.byContradiction fun other => filled ?_
        simp [wholeDigits, zero, other]

theorem readUnsigned_refused_or (negative : Bool) (start cs : List Char) :
    (∃ flaw n, readUnsigned negative start cs = .error (.malformed flaw n)) ∨
      ∃ d after, d.isDigit = true ∧ cs = d :: after := by
  by_cases filled : wholeDigits cs = []
  · exact .inl ⟨.noValue, start.length, by simp [readUnsigned, filled, refuse]⟩
  · exact .inr (wholeDigits_head filled)

theorem readNumber_refused_or (cs : List Char) :
    (∃ flaw n, readNumber cs = .error (.malformed flaw n)) ∨ BeginsNumber cs := by
  simp only [readNumber]
  split
  · rename_i rest
    refine (readUnsigned_refused_or true _ rest).imp_right ?_
    rintro ⟨d, after, digit, rfl⟩
    exact ⟨d, after, digit, .inr rfl⟩
  · refine (readUnsigned_refused_or false _ _).imp_right ?_
    rintro ⟨d, after, digit, rfl⟩
    exact ⟨d, after, digit, .inl rfl⟩

/-- No word begins like a number. -/
theorem find?_words_eq_none {cs : List Char} (h : BeginsNumber cs) :
    words.find? (fun entry => entry.1.toList.isPrefixOf cs) = none := by
  have letters : ∀ entry ∈ words, ∃ c d rest, entry.1.toList = c :: d :: rest ∧ c.isDigit = false ∧
      (c = '-' → d.isDigit = false) := by
    simp only [words, List.forall_mem_cons]
    refine ⟨?_, ?_, ?_, ?_, ?_, ?_, ?_⟩
    all_goals first | exact List.forall_mem_nil _ | exact ⟨_, _, _, rfl, rfl, by decide⟩
  rw [List.find?_eq_none]
  intro entry listed begins
  obtain ⟨c, d, rest, letters, other, signed⟩ := letters entry listed
  simp only [letters] at begins
  obtain ⟨digit, after, is_digit, rfl | rfl⟩ := h
  · simp only [List.isPrefixOf, Bool.and_eq_true, beq_iff_eq] at begins
    rw [begins.1, is_digit] at other
    cases other
  · simp only [List.isPrefixOf, Bool.and_eq_true, beq_iff_eq] at begins
    rw [begins.2.1, is_digit] at signed
    cases signed begins.1

theorem readWord_word {word : String} {v : Json} (h : (word, v) ∈ words) (rest : List Char) :
    readWord (word.toList ++ rest) = .ok (v, rest) := by
  simp only [words, List.mem_cons, Prod.mk.injEq, List.not_mem_nil, or_false] at h
  rcases h with ⟨rfl, rfl⟩ | ⟨rfl, rfl⟩ | ⟨rfl, rfl⟩ | ⟨rfl, rfl⟩ | ⟨rfl, rfl⟩ | ⟨rfl, rfl⟩ <;> rfl

theorem readWord_extends (cs tail : List Char) :
    Extends EndsNumber tail (readWord cs) (readWord (cs ++ tail)) := by
  cases found : words.find? (fun entry => entry.1.toList.isPrefixOf cs) with
  | some entry =>
      obtain ⟨word, v⟩ := entry
      have begins := List.find?_some found
      obtain ⟨rest, rfl⟩ := List.isPrefixOf_iff_prefix.mp begins
      have listed := List.mem_of_find?_eq_some found
      rw [List.append_assoc, readWord_word listed, readWord_word listed]
      exact .value v rest
  | none =>
      have number : readWord cs = readNumber cs := by
        simp only [readWord, found]
      rw [number]
      rcases readNumber_refused_or cs with ⟨flaw, n, refused⟩ | begins
      · rw [refused]
        exact .refused
      · have begins' : BeginsNumber (cs ++ tail) := by
          obtain ⟨d, after, digit, rfl | rfl⟩ := begins
          · exact ⟨d, after ++ tail, digit, .inl rfl⟩
          · exact ⟨d, after ++ tail, digit, .inr rfl⟩
        have number' : readWord (cs ++ tail) = readNumber (cs ++ tail) := by
          simp only [readWord, find?_words_eq_none begins']
        rw [number']
        exact readNumber_extends cs tail

/-! ## Lists and objects -/

theorem skipSpace_append {cs after : List Char} {c : Char} (h : skipSpace cs = c :: after)
    (tail : List Char) : skipSpace (cs ++ tail) = c :: (after ++ tail) := by
  rw [skipSpace] at h ⊢
  rw [List.dropWhile_append, h, List.isEmpty_cons, if_neg Bool.false_ne_true, List.cons_append]

/-- A value is over where a comma, a bracket or a brace comes next. -/
theorem endsNumber_of_skipSpace {cs after : List Char} {c : Char} (h : skipSpace cs = c :: after)
    (other : c ≠ '.' ∧ c ≠ 'e' ∧ c ≠ 'E') : EndsNumber cs := by
  cases cs with
  | nil => cases h
  | cons d rest =>
      cases space : isSpace d with
      | true =>
          refine ⟨d, rest, rfl, ?_, ?_, ?_⟩ <;>
          · rintro rfl
            cases space
      | false =>
          rw [skipSpace, List.dropWhile_cons_of_neg (ne_true_of_eq_false space),
            List.cons.injEq] at h
          exact ⟨d, rest, rfl, h.1 ▸ other⟩

theorem readMembers_nil (fuel levels : Nat) :
    ∃ n, readMembers fuel levels [] = .error (.malformed .noKey n) := by
  cases fuel <;> exact ⟨_, rfl⟩

theorem readValue_nil (fuel levels : Nat) :
    ∃ n, readValue fuel levels [] = .error (.malformed .noValue n) := by
  cases fuel with
  | zero => exact ⟨_, rfl⟩
  | succ fuel => exact ⟨0, by simp only [readValue]; rfl⟩

theorem readItems_nil (fuel levels : Nat) :
    ∃ n, readItems fuel levels [] = .error (.malformed .noValue n) := by
  cases fuel with
  | zero => exact ⟨_, rfl⟩
  | succ fuel =>
    obtain ⟨n, refused⟩ := readValue_nil fuel levels
    refine ⟨n, ?_⟩
    rw [readItems, refused]
    rfl

theorem readValue_object {fuel levels : Nat} {rest after : List Char} {c : Char}
    (next : skipSpace rest = c :: after) (filled : c ≠ '\x7d') :
    readValue (fuel + 1) (levels + 1) ('\x7b' :: rest) =
      readMembers fuel levels (c :: after) >>= fun read =>
        .ok (.object (Entries.ofMembers read.1), read.2) := by
  simp only [readValue, next]
  split
  · rename_i same
    exact absurd (List.cons.inj same).1 filled
  · rfl

theorem readValue_list {fuel levels : Nat} {rest after : List Char} {c : Char}
    (next : skipSpace rest = c :: after) (filled : c ≠ ']') :
    readValue (fuel + 1) (levels + 1) ('[' :: rest) =
      readItems fuel levels (c :: after) >>= fun read => .ok (.array read.1, read.2) := by
  simp only [readValue, next]
  split
  · rename_i same
    exact absurd (List.cons.inj same).1 filled
  · rfl

theorem readObject_extends {fuel fuel' levels : Nat} {tail : List Char}
    (members : ∀ cs, Extends (fun _ => True) tail (readMembers fuel levels cs)
      (readMembers fuel' levels (cs ++ tail))) (rest : List Char) :
    Extends (fun _ => True) tail (readValue (fuel + 1) (levels + 1) ('\x7b' :: rest))
      (readValue (fuel' + 1) (levels + 1) ('\x7b' :: (rest ++ tail))) := by
  cases next : skipSpace rest with
  | nil =>
      obtain ⟨n, refused⟩ := readMembers_nil fuel levels
      simp only [readValue, next, refused]
      exact .refused
  | cons c after =>
      have next' := skipSpace_append next tail
      by_cases close : c = '\x7d'
      · subst close
        simp only [readValue, next, next']
        exact .value _ _
      · rw [readValue_object next close, readValue_object next' close]
        exact (members (c :: after)).bind (fun _ _ _ => .value _ _)
          fun _ _ other => absurd trivial other

theorem readList_extends {fuel fuel' levels : Nat} {tail : List Char}
    (items : ∀ cs, Extends (fun _ => True) tail (readItems fuel levels cs)
      (readItems fuel' levels (cs ++ tail))) (rest : List Char) :
    Extends (fun _ => True) tail (readValue (fuel + 1) (levels + 1) ('[' :: rest))
      (readValue (fuel' + 1) (levels + 1) ('[' :: (rest ++ tail))) := by
  cases next : skipSpace rest with
  | nil =>
      obtain ⟨n, refused⟩ := readItems_nil fuel levels
      simp only [readValue, next, refused]
      exact .refused
  | cons c after =>
      have next' := skipSpace_append next tail
      by_cases close : c = ']'
      · subst close
        simp only [readValue, next, next']
        exact .value _ _
      · rw [readValue_list next close, readValue_list next' close]
        exact (items (c :: after)).bind (fun _ _ _ => .value _ _)
          fun _ _ other => absurd trivial other

theorem readValue_other {fuel levels : Nat} {rest : List Char} {c : Char} (quote : c ≠ '"')
    (brace : c ≠ '\x7b') (bracket : c ≠ '[') :
    readValue (fuel + 1) levels (c :: rest) = readWord (c :: rest) := by
  simp [readValue, quote, brace, bracket]

/-- White space in front of what is read makes no difference. -/
theorem Extends.spaced {p : List Char → Prop} {tail : List Char}
    {short long : List Char → Except JsonError (α × List Char)}
    (h : ∀ cs, Extends p tail (short cs) (long (cs ++ tail)))
    (nothing : ∃ flaw n, short [] = .error (.malformed flaw n)) (cs : List Char) :
    Extends p tail (short (skipSpace cs)) (long (skipSpace (cs ++ tail))) := by
  cases next : skipSpace cs with
  | nil =>
      obtain ⟨flaw, n, refused⟩ := nothing
      rw [refused]
      exact .refused
  | cons c after =>
      rw [skipSpace_append next]
      exact h (c :: after)

theorem afterValue_extends {close : Char} {last : α} {tail : List Char}
    {short long : List Char → Except JsonError (α × List Char)}
    (more : ∀ cs, Extends (fun _ => True) tail (short cs) (long (cs ++ tail)))
    (nothing : ∃ flaw n, short [] = .error (.malformed flaw n)) (cs : List Char) :
    Extends (fun _ => True) tail (afterValue close last short cs)
      (afterValue close last long (cs ++ tail)) := by
  cases next : skipSpace cs with
  | nil =>
      simp only [afterValue, next]
      exact .refused
  | cons c rest =>
      simp only [afterValue, next, skipSpace_append next]
      split
      · exact .value last rest
      · split
        · exact .spaced more nothing rest
        · exact .refused

/-- A value that a number would go on after is not followed by anything that belongs there. -/
theorem afterValue_refused {close : Char} (other : close ≠ '.' ∧ close ≠ 'e' ∧ close ≠ 'E')
    (last : α) (more : List Char → Except JsonError (α × List Char)) {cs : List Char}
    (goes_on : ¬ EndsNumber cs) :
    ∃ flaw n, afterValue close last more cs = .error (.malformed flaw n) := by
  cases next : skipSpace cs with
  | nil => exact ⟨.noComma, 0, by simp only [afterValue, next]; rfl⟩
  | cons c rest =>
      have closes : c ≠ close := by
        rintro rfl
        exact goes_on (endsNumber_of_skipSpace next other)
      have comma : c ≠ ',' := by
        rintro rfl
        exact goes_on (endsNumber_of_skipSpace next (by decide))
      exact ⟨.noComma, (c :: rest).length, by simp [afterValue, next, closes, comma, refuse]⟩

-- By induction on the fuel of the short reading; the long one has at least as much. Only a value at
-- the very end of its text can be a number that goes on, hence the condition on the rest.
mutual

theorem readValue_extends {fuel fuel' : Nat} (more : fuel ≤ fuel') (levels : Nat)
    (cs tail : List Char) : Extends EndsNumber tail (readValue fuel levels cs)
      (readValue fuel' levels (cs ++ tail)) := by
  cases fuel with
  | zero => exact .refused
  | succ fuel =>
      obtain ⟨fuel', rfl⟩ := Nat.exists_eq_add_of_le' (Nat.one_le_of_lt more)
      have less : fuel ≤ fuel' := Nat.le_of_succ_le_succ more
      cases cs with
      | nil =>
          obtain ⟨n, refused⟩ := readValue_nil (fuel + 1) levels
          rw [refused]
          exact .refused
      | cons c rest =>
          rw [List.cons_append]
          by_cases quote : c = '"'
          · subst quote
            simp only [readValue]
            refine Extends.weaken ?_ fun _ _ => trivial
            exact (readChars_extends _ _ _ _ rest tail).bind (fun _ _ _ => .value _ _)
              fun _ _ other => absurd trivial other
          by_cases brace : c = '\x7b'
          · subst brace
            cases levels with
            | zero =>
                simp only [readValue]
                exact .tooNested _
            | succ levels =>
                refine Extends.weaken ?_ fun _ _ => trivial
                exact readObject_extends (fun cs => readMembers_extends less levels cs tail) rest
          by_cases bracket : c = '['
          · subst bracket
            cases levels with
            | zero =>
                simp only [readValue]
                exact .tooNested _
            | succ levels =>
                refine Extends.weaken ?_ fun _ _ => trivial
                exact readList_extends (fun cs => readItems_extends less levels cs tail) rest
          rw [readValue_other quote brace bracket, readValue_other quote brace bracket]
          exact readWord_extends (c :: rest) tail

theorem readItems_extends {fuel fuel' : Nat} (more : fuel ≤ fuel') (levels : Nat)
    (cs tail : List Char) : Extends (fun _ => True) tail (readItems fuel levels cs)
      (readItems fuel' levels (cs ++ tail)) := by
  cases fuel with
  | zero => exact .refused
  | succ fuel =>
      obtain ⟨fuel', rfl⟩ := Nat.exists_eq_add_of_le' (Nat.one_le_of_lt more)
      have less : fuel ≤ fuel' := Nat.le_of_succ_le_succ more
      simp only [readItems]
      refine (readValue_extends less levels cs tail).bind (fun v rest _ => ?_)
        fun v rest goes_on => afterValue_refused (by decide) _ _ goes_on
      refine afterValue_extends (fun cs => ?_) ?_ rest
      · exact (readItems_extends less levels cs tail).bind (fun _ _ _ => .value _ _)
          fun _ _ other => absurd trivial other
      · obtain ⟨n, refused⟩ := readItems_nil fuel levels
        exact ⟨_, n, by rw [refused]; rfl⟩

theorem readMembers_extends {fuel fuel' : Nat} (more : fuel ≤ fuel') (levels : Nat)
    (cs tail : List Char) : Extends (fun _ => True) tail (readMembers fuel levels cs)
      (readMembers fuel' levels (cs ++ tail)) := by
  cases fuel with
  | zero => exact .refused
  | succ fuel =>
      obtain ⟨fuel', rfl⟩ := Nat.exists_eq_add_of_le' (Nat.one_le_of_lt more)
      have less : fuel ≤ fuel' := Nat.le_of_succ_le_succ more
      simp only [readMembers]
      cases cs with
      | nil => exact .refused
      | cons c rest =>
          by_cases quote : c = '"'
          · subst quote
            refine (readChars_extends _ _ none [] rest tail).bind (fun key rest _ => ?_)
              fun _ _ other => absurd trivial other
            cases colon : skipSpace rest with
            | nil => exact .refused
            | cons c after =>
                rw [skipSpace_append colon]
                by_cases mark : c = ':'
                · subst mark
                  refine Extends.bind (.spaced (fun cs => readValue_extends less levels cs tail)
                    ?_ after) (fun v rest _ => ?_)
                    fun v rest goes_on => afterValue_refused (by decide) _ _ goes_on
                  · obtain ⟨n, refused⟩ := readValue_nil fuel levels
                    exact ⟨_, n, refused⟩
                  · refine afterValue_extends (fun cs => ?_) ?_ rest
                    · exact (readMembers_extends less levels cs tail).bind
                        (fun _ _ _ => .value _ _) fun _ _ other => absurd trivial other
                    · obtain ⟨n, refused⟩ := readMembers_nil fuel levels
                      exact ⟨_, n, by rw [refused]; rfl⟩
                · split
                  · rename_i same
                    exact absurd (List.cons.inj same).1 mark
                  · exact .refused
          · split
            · rename_i same
              exact absurd (List.cons.inj same).1 quote
            · exact .refused

end

/-! ## Texts that begin with an object -/

theorem read?_of_isOk {cs : List Char} (h : (read cs).isOk = true) :
    ∃ v, read? cs = .ok (some v) := by
  cases outcome : read cs with
  | ok v => exact ⟨v, by rw [read?, outcome]; rfl⟩
  | error e =>
      rw [outcome] at h
      cases h

theorem object_extends {n m : Nat} (more : n ≤ m) (rest tail : List Char) :
    Extends (fun _ => True) tail (readValue (n + 1) maxLevels ('\x7b' :: rest))
      (readValue (m + 1) maxLevels ('\x7b' :: (rest ++ tail))) :=
  readObject_extends (fun cs => readMembers_extends more _ cs tail) rest

/-- How a text is read that begins neither with white space nor with a mark. -/
theorem read?_eq {c : Char} (space : isSpace c = false) (mark : c ≠ '\ufeff') (rest : List Char) :
    read? (c :: rest) =
      match readValue (rest.length + 2) maxLevels (c :: rest) with
      | .ok (v, after) => .ok (if skipSpace after = [] then some v else none)
      | .error (.tooNested e) => .error e
      | .error _ => .ok none := by
  have start : skipSpace (c :: rest) = c :: rest :=
    List.dropWhile_cons_of_neg (ne_true_of_eq_false space)
  have unmarked : ((c :: rest).head? == some '\ufeff') = false := by simpa using mark
  simp only [read?, read, unmarked, readUnmarked, start, List.length_cons]
  cases readValue (rest.length + 2) maxLevels (c :: rest) with
  | ok found =>
      obtain ⟨v, after⟩ := found
      cases ended : skipSpace after <;> simp [orNone, refuse, ended]
  | error e => cases e <;> simp [orNone]

theorem read?_brace (rest : List Char) :
    read? ('\x7b' :: rest) =
      match readValue (rest.length + 2) maxLevels ('\x7b' :: rest) with
      | .ok (v, after) => .ok (if skipSpace after = [] then some v else none)
      | .error (.tooNested e) => .error e
      | .error _ => .ok none :=
  read?_eq rfl (by decide) rest

/-- An object with more text behind it is JSON only if that is white space. -/
theorem read?_append {rest : List Char} {v : Json} (h : read? ('\x7b' :: rest) = .ok (some v))
    (tail : List Char) : read? ('\x7b' :: rest ++ tail) =
      .ok (if skipSpace tail = [] then some v else none) := by
  rw [read?_brace] at h
  split at h
  · rename_i found after read
    have ended : skipSpace after = [] := by
      refine Classical.byContradiction fun more => ?_
      rw [if_neg more] at h
      cases h
    rw [if_pos ended] at h
    cases h
    have more : rest.length + 1 ≤ (rest ++ tail).length + 1 := by simp
    rw [List.cons_append, read?_brace, (object_extends more rest tail).read _ _ read trivial]
    have same : skipSpace (after ++ tail) = skipSpace tail := by
      rw [skipSpace] at ended ⊢
      rw [List.dropWhile_append, ended]
      rfl
    simp only [same]
  · cases h
  · cases h

/-- Nothing that an object begins with is JSON. -/
theorem read?_front {rest tail : List Char} {v : Json}
    (h : read? ('\x7b' :: rest ++ tail) = .ok (some v)) (more : skipSpace tail ≠ []) :
    read? ('\x7b' :: rest) = .ok none := by
  cases short : read? ('\x7b' :: rest) with
  | ok found =>
      cases found with
      | none => rfl
      | some v' =>
          rw [read?_append short, if_neg more] at h
          cases h
  | error e =>
      have nested : readValue (rest.length + 2) maxLevels ('\x7b' :: rest) =
          .error (.tooNested e) := by
        rw [read?_brace] at short
        split at short
        · cases short
        · rename_i read
          cases short
          exact read
        · cases short
      have longer : rest.length + 1 ≤ (rest ++ tail).length + 1 := by simp
      rw [List.cons_append, read?_brace, (object_extends longer rest tail).nested e nested] at h
      cases h

theorem readValue_entries {fuel levels : Nat} {rest after : List Char} {v : Json}
    (h : readValue (fuel + 1) (levels + 1) ('\x7b' :: rest) = .ok (v, after)) :
    ∃ entries, v = .object entries := by
  cases next : skipSpace rest with
  | nil =>
      obtain ⟨n, refused⟩ := readMembers_nil fuel levels
      simp only [readValue, next, refused] at h
      cases h
  | cons c behind =>
      by_cases close : c = '\x7d'
      · subst close
        simp only [readValue, next] at h
        cases h
        exact ⟨[], rfl⟩
      · rw [readValue_object next close] at h
        cases members : readMembers fuel levels (c :: behind) with
        | error e =>
            rw [members] at h
            cases h
        | ok found =>
            rw [members] at h
            cases h
            exact ⟨_, rfl⟩

/-- What begins with a brace is an object. -/
theorem entries_of_read? {rest : List Char} {v : Json}
    (h : read? ('\x7b' :: rest) = .ok (some v)) : ∃ entries, v = .object entries := by
  rw [read?_brace] at h
  split at h
  · rename_i found after read
    obtain ⟨entries, rfl⟩ := readValue_entries read
    split at h
    · cases h
      exact ⟨entries, rfl⟩
    · cases h
  · cases h
  · cases h

end PromptForm.Json
