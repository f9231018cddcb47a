import Mathlib.Data.Option.Basic
import PromptForm.Proofs.Condition.Expression
import PromptForm.Proofs.Outline.Attributes

/-! # Lines of questions

The line of a question is read as the field that asks it exactly when the question is clear. In any
case it is read as some field, unless it cannot be read.
-/

namespace PromptForm.Outline

open Text

/-! ## Labels -/

theorem isEnding_of_mem {x : Char} {cs : List Char} (shown : isBlank x = false) (colon : x ≠ ':')
    (point : x ≠ '.') (h : x ∈ cs) : isEnding cs = false := by
  obtain ⟨front, rest, rfl⟩ := List.append_of_mem h
  rw [isEnding, trimStart, dropWhile_past shown]
  cases front.dropWhile isBlank with
  | nil => simp [colon, point]
  | cons c front =>
      have more : trimStart (front ++ x :: rest) ≠ [] := by
        rw [trimStart, dropWhile_past shown]
        simp
      simp [more]

theorem tail?_parenthesis (cs : List Char) : tail? ('(' :: cs) =
    match cs.dropWhile fun c => c != '(' && c != ')' with
    | ')' :: after =>
      if isEnding after then some (some (cs.takeWhile fun c => c != '(' && c != ')')) else none
    | _ => none :=
  rfl

/-- Attributes are no tail when a parenthesis in them is opened, or closed before another one. -/
theorem tail?_open_eq_none {x : Char} {front rest : List Char}
    (h : x = '(' ∨ x = ')' ∧ ')' ∈ rest) : tail? ('(' :: (front ++ x :: rest)) = none := by
  have parenthesis : (x != '(' && x != ')') = false := by
    rcases h with rfl | ⟨rfl, _⟩ <;> rfl
  have unended (inner : List Char) : isEnding (inner ++ x :: rest) = false := by
    refine isEnding_of_mem (x := x) ?_ ?_ ?_ (List.mem_append_right _ List.mem_cons_self) <;>
      rcases h with rfl | ⟨rfl, _⟩ <;> decide
  rw [tail?_parenthesis, dropWhile_past parenthesis]
  cases front.dropWhile fun c => c != '(' && c != ')' with
  | nil =>
      rcases h with rfl | ⟨rfl, closed⟩
      · rfl
      · simp [isEnding_of_mem (by decide) (by decide) (by decide) closed]
  | cons c inner =>
      rw [List.cons_append]
      split
      · rename_i same
        cases same
        rw [unended]
        rfl
      · rfl

/-- A text with a parenthesis that is opened after its first character is no tail. -/
theorem tail?_eq_none {x : Char} {cs rest : List Char} (h : trimStart cs = x :: rest)
    (opened : '(' ∈ rest) : tail? cs = none := by
  have settled : tail? cs = tail? (x :: rest) := by
    have trimmed : trimStart (x :: rest) = x :: rest := by
      rw [← h]
      exact List.dropWhile_idempotent isBlank cs
    rw [tail?, tail?, h, trimmed]
  rw [settled]
  by_cases first : x = '('
  · obtain ⟨front, back, rfl⟩ := List.append_of_mem opened
    rw [first]
    exact tail?_open_eq_none (.inl rfl)
  · have unended : isEnding (x :: rest) = false :=
      isEnding_of_mem (by decide) (by decide) (by decide) (List.mem_cons_of_mem x opened)
    rw [← settled, tail?, h]
    split
    · rename_i same
      cases same
      exact absurd rfl first
    · rw [unended]
      rfl

theorem tail?_enclosed {cs : List Char} (opened : '(' ∉ cs) (closed : ')' ∉ cs) :
    tail? ('(' :: (cs ++ [')'])) = some (some cs) := by
  have inside : ∀ c ∈ cs, (c != '(' && c != ')') = true := by
    intro c hc
    simp only [Bool.and_eq_true, bne_iff_ne]
    exact ⟨fun same => opened (same ▸ hc), fun same => closed (same ▸ hc)⟩
  rw [tail?_parenthesis, List.dropWhile_append_of_pos inside, List.takeWhile_append_of_pos inside]
  simp [isEnding, trimStart]

theorem tail?_unenclosed {cs : List Char} (h : '(' ∈ cs ∨ ')' ∈ cs) :
    tail? ('(' :: (cs ++ [')'])) = none := by
  rcases h with opened | closed
  · exact tail?_eq_none rfl (List.mem_append_left _ opened)
  · obtain ⟨front, rest, rfl⟩ := List.append_of_mem closed
    rw [List.append_assoc]
    exact tail?_open_eq_none (.inr ⟨rfl, List.mem_append_right rest List.mem_cons_self⟩)

/-- No label ends in a text that is followed by no tail. -/
theorem labelFrom?_past {front rest : List Char} (inLine : ∀ c ∈ front, c ≠ '\n')
    (later : ∀ back, back <:+ front → tail? (back ++ rest) = none) (taken : List Char) :
    labelFrom? taken (front ++ rest) = labelFrom? (front.reverse ++ taken) rest := by
  induction front generalizing taken with
  | nil => rfl
  | cons c front ih =>
      obtain ⟨here, others⟩ := List.forall_mem_cons.mp inLine
      rw [List.cons_append, labelFrom?, if_neg (by simpa using here),
        later front (List.suffix_cons c front),
        ih others fun back h => later back (h.trans (List.suffix_cons c front))]
      change labelFrom? (front.reverse ++ c :: taken) rest = _
      rw [List.reverse_cons, List.append_assoc]
      rfl

theorem labelFrom?_isSome {cs : List Char} (some_char : cs ≠ []) (inLine : ∀ c ∈ cs, c ≠ '\n')
    (taken : List Char) : (labelFrom? taken cs).isSome := by
  induction cs generalizing taken with
  | nil => exact absurd rfl some_char
  | cons c rest ih =>
      obtain ⟨here, others⟩ := List.forall_mem_cons.mp inLine
      rw [labelFrom?, if_neg (by simpa using here)]
      split
      · rfl
      · rename_i none_here
        refine ih ?_ others _
        rintro rfl
        cases none_here

/-- A label goes on with at least one more character. -/
theorem labelFrom?_extends {taken cs label : List Char} {attributes : Option (List Char)}
    (h : labelFrom? taken cs = some (label, attributes)) :
    taken.reverse ++ cs.take 1 <+: label := by
  induction cs generalizing taken with
  | nil => cases h
  | cons c rest ih =>
      rw [labelFrom?] at h
      split at h
      · cases h
      · split at h
        · cases h
          rw [List.reverse_cons]
          exact List.prefix_rfl
        · have front := ih h
          rw [List.reverse_cons] at front
          exact (List.prefix_append _ _).trans front

/-! ## Parts of a line -/

namespace Question

/-- The line after its bullet. -/
def body (q : Question) : List Char :=
  q.label.chars ++ ' ' :: '(' :: (q.attributes ++ [')'])

theorem line_eq (q : Question) : q.line = '-' :: ' ' :: q.body := by
  simp [line, body]

theorem lineParts?_line (q : Question) {label : List Char} {attributes : Option (List Char)}
    (h : labelFrom? [] q.body = some (label, attributes)) :
    lineParts? q.line = some ⟨true, label, attributes⟩ := by
  obtain ⟨c, rest, split, shown⟩ := q.label.exists_head
  have start : afterBlanks q.body = [q.body] := by
    rw [body, split, List.cons_append, afterBlanks, if_neg (ne_true_of_eq_false shown)]
  have starts : labelStarts q.line = [(true, q.body), (true, ' ' :: q.body), (false, q.line)] := by
    rw [line_eq, labelStarts, afterBlanks, if_neg (by decide), List.flatMap_singleton]
    change (afterBlanks q.body ++ [' ' :: q.body]).map (true, ·) ++ _ = _
    rw [start]
    rfl
  simp only [lineParts?, starts, List.findSome?_cons, h, Option.map_some]

theorem labelFrom?_body (q : Question) : ∃ front c, q.label.chars = front ++ [c] ∧
    labelFrom? [] q.body =
      match tail? ('(' :: (q.attributes ++ [')'])) with
      | some attributes => some (q.label.chars, attributes)
      | none => labelFrom? (c :: front.reverse) (' ' :: '(' :: (q.attributes ++ [')'])) := by
  obtain ⟨front, c, split, shown⟩ := q.label.exists_last
  have inLine (x : Char) (hx : x ∈ q.label.chars) : x ≠ '\n' := by
    rintro rfl
    exact absurd (q.label.inLine _ hx) (by decide)
  rw [split, List.forall_mem_append] at inLine
  refine ⟨front, c, split, ?_⟩
  have whole : q.body = front ++ c :: ' ' :: '(' :: (q.attributes ++ [')']) := by
    rw [body, split, List.append_assoc]
    rfl
  have later (back : List Char) (_ : back <:+ front) :
      tail? (back ++ c :: ' ' :: '(' :: (q.attributes ++ [')'])) = none := by
    have trimmed : trimStart (back ++ c :: ' ' :: '(' :: (q.attributes ++ [')'])) =
        back.dropWhile isBlank ++ c :: ' ' :: '(' :: (q.attributes ++ [')']) :=
      dropWhile_past shown _ _
    cases dropped : back.dropWhile isBlank with
    | nil =>
        rw [dropped] at trimmed
        exact tail?_eq_none trimmed (by simp)
    | cons x inner =>
        rw [dropped] at trimmed
        exact tail?_eq_none trimmed (by simp)
  have broken : ¬ (c == '\n') = true := by simpa using inLine.2
  have blank : tail? (' ' :: '(' :: (q.attributes ++ [')'])) =
      tail? ('(' :: (q.attributes ++ [')'])) := rfl
  rw [whole, labelFrom?_past inLine.1 later, List.append_nil, labelFrom?, if_neg broken, blank]
  cases tail? ('(' :: (q.attributes ++ [')'])) with
  | none => rfl
  | some attributes => simp only [split, List.reverse_cons, List.reverse_reverse]

/-- A parenthesis is in the attributes only if it is in an option. -/
theorem mem_attributes {q : Question} {x : Char} (h : x = '(' ∨ x = ')') :
    x ∈ q.attributes ↔ ∃ o ∈ q.options, x ∈ o.chars := by
  have outside (word : KindWord) (required : Bool) : x ∉ head word required := by
    rcases h with rfl | rfl <;> cases word <;> cases required <;> decide
  have between : x ∉ ": ".toList ∧ x ∉ ", ".toList := by
    rcases h with rfl | rfl <;> decide
  rw [attributes, List.mem_append, or_iff_right (outside q.word q.required)]
  cases none_offered : q.options.isEmpty with
  | true => simp [List.isEmpty_iff.mp none_offered]
  | false =>
      rw [if_neg Bool.false_ne_true, List.mem_append, or_iff_right between.1, mem_join between.2]
      simp

theorem newline_not_mem_attributes (q : Question) : '\n' ∉ q.attributes := fun broken =>
  absurd (q.attributes_inLine _ broken) (by decide)

/-- Are the attributes free of parentheses? -/
def Enclosed (q : Question) : Prop := ∀ o ∈ q.options, '(' ∉ o.chars ∧ ')' ∉ o.chars

theorem lineParts?_enclosed {q : Question} (h : q.Enclosed) :
    lineParts? q.line = some ⟨true, q.label.chars, some q.attributes⟩ := by
  have opened : '(' ∉ q.attributes := by
    rw [mem_attributes (.inl rfl)]
    rintro ⟨o, ho, inside⟩
    exact (h o ho).1 inside
  have closed : ')' ∉ q.attributes := by
    rw [mem_attributes (.inr rfl)]
    rintro ⟨o, ho, inside⟩
    exact (h o ho).2 inside
  obtain ⟨front, c, _, found⟩ := q.labelFrom?_body
  rw [tail?_enclosed opened closed] at found
  exact q.lineParts?_line found

theorem lineParts?_unenclosed {q : Question} (h : ¬ q.Enclosed) : ∃ more attributes,
    lineParts? q.line = some ⟨true, q.label.chars ++ ' ' :: '(' :: more, attributes⟩ := by
  have inside : '(' ∈ q.attributes ∨ ')' ∈ q.attributes := by
    rw [mem_attributes (.inl rfl), mem_attributes (.inr rfl)]
    simp only [Enclosed, not_forall, not_and_or, not_not] at h
    obtain ⟨o, ho, opened | closed⟩ := h
    · exact .inl ⟨o, ho, opened⟩
    · exact .inr ⟨o, ho, closed⟩
  obtain ⟨front, c, split, found⟩ := q.labelFrom?_body
  have unended := tail?_unenclosed inside
  rw [unended, labelFrom?, if_neg (by decide), unended] at found
  have inLine : ∀ x ∈ '(' :: (q.attributes ++ [')']), x ≠ '\n' := by
    rintro x hx rfl
    simp [q.newline_not_mem_attributes] at hx
  obtain ⟨⟨label, attributes⟩, ended⟩ := Option.isSome_iff_exists.mp
    (labelFrom?_isSome (List.cons_ne_nil _ _) inLine (' ' :: c :: front.reverse))
  obtain ⟨more, rfl⟩ := labelFrom?_extends ended
  refine ⟨more, attributes, q.lineParts?_line (found.trans (ended.trans ?_))⟩
  simp [split]

/-! ## Texts of labels -/

theorem trim_label (q : Question) (rest : List Char) :
    trim (q.label.chars ++ ' ' :: '(' :: rest) =
      q.label.chars ++ ' ' :: '(' :: dropEndWhile isBlank rest := by
  obtain ⟨c, chars, split, shown⟩ := q.label.exists_head
  have front : (q.label.chars ++ [' ']).dropWhile isBlank = q.label.chars ++ [' '] := by
    rw [split, List.cons_append, List.dropWhile_cons_of_neg (ne_true_of_eq_false shown)]
  rw [List.append_cons, trim, stripWhere_past (by decide), front, ← List.append_cons]

theorem text_label {q : Question} (ends : q.label.chars.getLast? ≠ some ':') (bulleted : Bool)
    (attributes : Option (List Char)) :
    (⟨bulleted, q.label.chars, attributes⟩ : LineParts).text = q.label.text := by
  rw [LineParts.text, q.label.trimmed, Phrase.dropEndWhile_colon ends, q.label.trimmed,
    Phrase.text]

theorem text_longer (q : Question) (more : List Char) (bulleted : Bool)
    (attributes : Option (List Char)) : ∃ rest,
    (⟨bulleted, q.label.chars ++ ' ' :: '(' :: more, attributes⟩ : LineParts).text =
      String.ofList (q.label.chars ++ ' ' :: '(' :: rest) := by
  refine ⟨dropEndWhile isBlank (dropEndWhile (· == ':') (dropEndWhile isBlank more)), ?_⟩
  rw [LineParts.text, trim_label, List.append_cons, dropEndWhile_past (by decide),
    ← List.append_cons, trim_label]

theorem text_ne_longer (q : Question) (rest : List Char) :
    String.ofList (q.label.chars ++ ' ' :: '(' :: rest) ≠ q.label.text := by
  intro same
  have chars := congrArg String.toList same
  simp [Phrase.text] at chars

/-! ## Requests for consent -/

theorem dropParenthesis_suffix (cs : List Char) : dropParenthesis cs <:+ cs := by
  unfold dropParenthesis
  split
  · rename_i rest
    split
    · rename_i c after closed
      have inside : c :: after <:+ rest := closed ▸ List.dropWhile_suffix _
      exact ((List.suffix_cons c after).trans inside).trans (List.suffix_cons _ rest)
    · exact List.suffix_rfl
  · exact List.suffix_rfl

/-- The statement after the words of a request for consent. -/
def statementAfter (cs : List Char) : List Char :=
  match trimStart (dropParenthesis (trimStart cs)) with
  | c :: after =>
    if c == ':' || c == '-' || c == '–' then trim after
    else trim (trimStart (dropParenthesis (trimStart cs)))
  | [] => []

theorem statementAfter_sublist (cs : List Char) : (statementAfter cs).Sublist cs := by
  have rest : (trimStart (dropParenthesis (trimStart cs))).Sublist cs :=
    (List.dropWhile_sublist _).trans
      ((dropParenthesis_suffix _).sublist.trans (List.dropWhile_sublist _))
  unfold statementAfter
  split
  · rename_i c after split
    rw [split] at rest ⊢
    split
    · exact (stripWhere_sublist isBlank after).trans ((List.sublist_cons_self c after).trans rest)
    · exact (stripWhere_sublist isBlank _).trans rest
  · exact List.nil_sublist cs

/-- The word `checkbox` is not looked for beyond the label. -/
theorem dropCheckbox?_append (label rest : List Char) :
    dropWord? "checkbox".toList (trimStart (label ++ ' ' :: '(' :: rest)) =
      (dropWord? "checkbox".toList (trimStart label)).map (· ++ ' ' :: '(' :: rest) := by
  rw [trimStart, trimStart, List.dropWhile_append]
  cases label.dropWhile isBlank with
  | nil => rfl
  | cons c cs => exact dropWord?_append (forall_of_all (by decide)) (c :: cs) ('(' :: rest)

/-- The bullet and the blank of the line of a question are passed over. -/
theorem consentLine?_eq (q : Question) : consentLine? q.line = (do
    let rest ← dropWord? "consent".toList q.body
    guard (rest.head?.any isBlank)
    let rest ← dropWord? "checkbox".toList (trimStart rest)
    guard (!startsWithWord rest)
    guard (!(statementAfter rest).contains '\n')
    return statementAfter rest) := by
  obtain ⟨c, chars, split, shown⟩ := q.label.exists_head
  have start : trimStart q.line = q.line := by
    rw [line_eq]
    rfl
  have bullet : dropBullet? q.line = some (' ' :: q.body) := by
    rw [line_eq]
    rfl
  have body : trimStart (' ' :: q.body) = q.body := by
    change trimStart q.body = q.body
    rw [body, split, List.cons_append, trimStart,
      List.dropWhile_cons_of_neg (ne_true_of_eq_false shown)]
  simp only [consentLine?, start, bullet, Option.map_some, Option.getD_some, body]
  rfl

/-- What follows a word of the label is on one line. -/
theorem newline_not_mem_statementAfter (q : Question) {after : List Char}
    (h : after <:+ q.label.chars) :
    '\n' ∉ statementAfter (after ++ ' ' :: '(' :: (q.attributes ++ [')'])) := by
  intro broken
  rcases List.mem_append.mp ((statementAfter_sublist _).subset broken) with label | later
  · exact absurd (q.label.inLine _ (h.subset label)) (by decide)
  · simp [q.newline_not_mem_attributes] at later

/-- The line of a question asks for consent exactly when its label does. -/
theorem consentLine?_line (q : Question) :
    consentLine? q.line = none ↔ asksConsent q.label.chars = false := by
  rw [consentLine?_eq, Question.body, dropWord?_append (forall_of_all (by decide)), asksConsent]
  cases consent : dropWord? "consent".toList q.label.chars with
  | none => exact iff_of_true rfl rfl
  | some rest =>
      simp only [Option.map_some, Option.bind_eq_bind, Option.bind_some, dropCheckbox?_append]
      cases checkbox : dropWord? "checkbox".toList (trimStart rest) with
      | none => simp
      | some after =>
          have head : (rest ++ ' ' :: '(' :: (q.attributes ++ [')'])).head? = rest.head? := by
            cases rest with
            | nil => cases checkbox
            | cons => rfl
          have word : startsWithWord (after ++ ' ' :: '(' :: (q.attributes ++ [')'])) =
              startsWithWord after := by
            cases after <;> rfl
          have early : after <:+ q.label.chars :=
            (dropWord?_suffix checkbox).trans
              ((List.dropWhile_suffix _).trans (dropWord?_suffix consent))
          have inLine := q.newline_not_mem_statementAfter early
          simp only [head, word, Option.map_some, Option.bind_some, Option.any_some]
          cases rest.head?.any isBlank <;> cases startsWithWord after <;> simp [inLine, guard]

/-! ## Fields of questions -/

/-- The options of the common questions can be told from the signs around them. -/
theorem separable_of_common {texts : List String} {options : List Phrase}
    (h : texts = contactMethods ∨ texts = timesOfDay) (same : options.map Phrase.text = texts) :
    Separable options := by
  have each : ∀ s ∈ texts, ',' ∉ s.toList ∧ stripWhere isOptionPadding s.toList = s.toList := by
    rcases h with rfl | rfl <;> decide
  have several : texts.length ≠ 1 := by
    rcases h with rfl | rfl <;> decide
  refine Separable.of_several (fun o ho => ?_) ?_
  · have inside : o.text ∈ texts := same ▸ List.mem_map_of_mem ho
    simpa [Phrase.text] using each o.text inside
  · rwa [← same, List.length_map] at several

theorem options_eq_nil {q : Question} (plain : q.word.offers = false) : q.options = [] := by
  rw [← List.isEmpty_iff, q.offered, plain]
  rfl

theorem options_ne_nil {q : Question} (offers : q.word.offers = true) : q.options ≠ [] := by
  rw [← List.isEmpty_eq_false_iff, q.offered, offers]
  rfl

/-- The options of the field of a kind with options. -/
theorem fieldOf_offers {q : Question} (offers : q.word.offers = true) (low high : Option Int) :
    fieldOf q.word.kind q.label.text
        ⟨some q.word.kind, q.required, q.optionsRead, low, high, false⟩ =
      { q.field with
        options :=
          if q.optionsRead.isEmpty then
            ((commonQuestion? q.label.text).map Field.options).getD []
          else q.optionsRead.map .text } := by
  rw [field]
  cases word : q.word
  case dropdown | multipleChoice | checkboxes => rfl
  all_goals
    rw [word] at offers
    cases offers

/-- The field of a kind without options. -/
theorem fieldOf_plain {q : Question} (plain : q.word.offers = false) :
    fieldOf q.word.kind q.label.text
        ⟨some q.word.kind, q.required, q.optionsRead, none, none, false⟩ = q.field := by
  rw [field, optionsRead, options_eq_nil plain]
  cases word : q.word
  case dropdown | multipleChoice | checkboxes =>
    rw [word] at plain
    cases plain
  all_goals rfl

/-- The options of the field of a kind with options are those of the question exactly when they are
read. If none is read, the common questions come in. -/
theorem options_fieldOf_iff {q : Question} (offers : q.word.offers = true) :
    (if q.optionsRead.isEmpty then ((commonQuestion? q.label.text).map Field.options).getD []
      else q.optionsRead.map .text) = (q.options.map Phrase.text).map .text ↔
      Separable q.options := by
  have text_injective : Function.Injective Json.text := fun _ _ => Json.text.inj
  rw [← optionsRead_eq_iff]
  constructor
  · intro same
    split at same
    · cases found : commonQuestion? q.label.text with
      | none =>
          rw [found] at same
          exact absurd (List.map_eq_nil_iff.mp (List.map_eq_nil_iff.mp same.symm))
            (options_ne_nil offers)
      | some f =>
          obtain ⟨_, texts, common, options⟩ := commonQuestion?_label found
          rw [found, Option.map_some, Option.getD_some, options] at same
          exact q.optionsRead_eq_iff.mpr
            (separable_of_common common (text_injective.list_map same).symm)
    · exact text_injective.list_map same
  · intro read
    have some_read : q.optionsRead.isEmpty = false := by
      simpa [read] using options_ne_nil offers
    rw [some_read, if_neg Bool.false_ne_true, read]

/-- The field of a kind is the one that asks the question exactly when the options can be told from
the signs around them. -/
theorem fieldOf_eq_field_iff {q : Question} {low high : Option Int}
    (plain : q.word.offers = false → low = none ∧ high = none) :
    fieldOf q.word.kind q.label.text
        ⟨some q.word.kind, q.required, q.optionsRead, low, high, false⟩ = q.field ↔
      Separable q.options := by
  cases offers : q.word.offers with
  | false =>
      obtain ⟨rfl, rfl⟩ := plain offers
      exact iff_of_true (fieldOf_plain offers) (options_eq_nil offers ▸ ⟨nofun, nofun, nofun⟩)
  | true =>
      have texts : q.field.options = (q.options.map Phrase.text).map .text := by
        rw [field, List.map_map]
        rfl
      rw [fieldOf_offers offers, ← options_fieldOf_iff offers, ← texts]
      constructor
      · exact congrArg Field.options
      · intro same
        rw [same]

/-- Parts with a bullet and a label give a field with this label, unless the attributes cannot be
read. -/
theorem fieldOfParts_bulleted {label : List Char} {attributes : Option (List Char)} {text : String}
    (h : (⟨true, label, attributes⟩ : LineParts).text = text) (given : text.isEmpty = false) :
    (∃ e, fieldOfParts ⟨true, label, attributes⟩ = .error e) ∨
      ∃ f, fieldOfParts ⟨true, label, attributes⟩ = .ok (some f) ∧ f.label = text := by
  rw [fieldOfParts_eq, h, given, if_neg Bool.false_ne_true, if_neg (by simp)]
  cases attributes with
  | none => exact .inr ⟨_, rfl, fieldWith_label text _⟩
  | some cs =>
      simp only
      cases Attributes.parse cs with
      | error e => exact .inl ⟨e, rfl⟩
      | ok a => exact .inr ⟨_, rfl, fieldWith_label text a⟩

theorem label_given (q : Question) : q.label.text.isEmpty = false := by
  simpa [Phrase.text] using q.label.filled

theorem fieldOfLine_enclosed {q : Question} (ends : q.label.chars.getLast? ≠ some ':')
    (readable : ¬ EndlessRange q.attributes) (label : asksConsent q.label.chars = false)
    (enclosed : q.Enclosed) :
    ∃ f, fieldOfLine q.line = .ok (some f) ∧ (f = q.field ↔ Separable q.options) := by
  obtain ⟨low, high, parsed, plain⟩ := parse_attributes readable
  refine ⟨_, ?_, fieldOf_eq_field_iff plain⟩
  rw [fieldOfLine, (consentLine?_line q).mpr label, lineParts?_enclosed enclosed]
  simp only [fieldOfParts_eq, text_label ends, q.label_given, parsed]
  rfl

theorem fieldOfLine_unenclosed {q : Question} (label : asksConsent q.label.chars = false)
    (unenclosed : ¬ q.Enclosed) : (∃ e, fieldOfLine q.line = .error e) ∨
      ∃ f, fieldOfLine q.line = .ok (some f) ∧ f.label ≠ q.label.text := by
  obtain ⟨more, attributes, parts⟩ := lineParts?_unenclosed unenclosed
  obtain ⟨rest, text⟩ := q.text_longer more true attributes
  have line : fieldOfLine q.line =
      fieldOfParts ⟨true, q.label.chars ++ ' ' :: '(' :: more, attributes⟩ := by
    rw [fieldOfLine, (consentLine?_line q).mpr label, parts]
  rw [line]
  refine (fieldOfParts_bulleted text (by simp)).imp_right ?_
  rintro ⟨f, given, same⟩
  exact ⟨f, given, same ▸ q.text_ne_longer rest⟩

theorem fieldOfLine_consent {q : Question} (label : asksConsent q.label.chars = true) :
    ∃ f, fieldOfLine q.line = .ok (some f) ∧ f ≠ q.field := by
  cases statement : consentLine? q.line with
  | none =>
      rw [consentLine?_line, label] at statement
      cases statement
  | some cs =>
      refine ⟨consentField cs, by rw [fieldOfLine, statement], fun same => ?_⟩
      have kinds : ∀ word ∈ KindWord.all, Kind.name .consentCheckbox ≠ word.kind.name := by
        decide
      exact kinds q.word q.word.mem_all (congrArg Field.type same)

/-- The line of a question is read as some field, unless it cannot be read. -/
theorem fieldOfLine_ne_none {q : Question} (ends : q.label.chars.getLast? ≠ some ':')
    (readable : ¬ EndlessRange q.attributes) : fieldOfLine q.line ≠ .ok none := by
  intro read
  cases label : asksConsent q.label.chars with
  | true =>
      obtain ⟨f, given, _⟩ := fieldOfLine_consent label
      rw [read] at given
      cases given
  | false =>
      by_cases enclosed : q.Enclosed
      · obtain ⟨f, given, _⟩ := fieldOfLine_enclosed ends readable label enclosed
        rw [read] at given
        cases given
      · rcases fieldOfLine_unenclosed label enclosed with ⟨e, given⟩ | ⟨f, given, _⟩ <;>
          rw [read] at given <;> cases given

/-- The line of a question is read as the field that asks it exactly when the question is clear. -/
theorem fieldOfLine_eq_field_iff {q : Question} (ends : q.label.chars.getLast? ≠ some ':')
    (readable : ¬ EndlessRange q.attributes) :
    fieldOfLine q.line = .ok (some q.field) ↔ q.Clear := by
  cases label : asksConsent q.label.chars with
  | true =>
      obtain ⟨f, given, differs⟩ := fieldOfLine_consent label
      refine iff_of_false ?_ fun clear => ?_
      · simpa [given] using differs
      · rw [clear.label] at label
        cases label
  | false =>
      by_cases enclosed : q.Enclosed
      · obtain ⟨f, given, same⟩ := fieldOfLine_enclosed ends readable label enclosed
        rw [given, Except.ok.injEq, Option.some.injEq, same]
        exact ⟨fun separable => ⟨label, enclosed, separable⟩, Clear.separable⟩
      · refine iff_of_false (fun read => ?_) fun clear => enclosed clear.enclosed
        rcases fieldOfLine_unenclosed label enclosed with ⟨e, given⟩ | ⟨f, given, differs⟩
        · rw [read] at given
          cases given
        · rw [read] at given
          cases given
          exact differs rfl

end Question

end PromptForm.Outline
