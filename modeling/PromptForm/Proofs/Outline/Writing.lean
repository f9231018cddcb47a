import PromptForm.Proofs.Outline.Attributes

/-! # Lines of plans

The prompt of a plan has the lines of the plan. The lines before the sections give the title and the
introduction, headings open sections, and the lines after the sections give the message exactly when
it can be told from its quotes.
-/

namespace PromptForm.Outline

open Text

/-! ## Texts in lines -/

/-- A text that is a line as it is kept: neither empty nor with white space at its ends. -/
structure IsLine (cs : List Char) : Prop where
  filled : cs ≠ []
  trimmed : trim cs = cs
  inLine : ∀ c ∈ cs, isLineEnd c = false

/-- A text that begins and ends like lines is a line. -/
theorem IsLine.append {front back : List Char} {c d : Char} (head : front.head? = some c)
    (last : back.getLast? = some d) (solid : isBlank c = false ∧ isBlank d = false)
    (inLine : (∀ c ∈ front, isLineEnd c = false) ∧ ∀ c ∈ back, isLineEnd c = false) :
    IsLine (front ++ back) where
  filled := by
    rintro empty
    rw [(List.append_eq_nil_iff.mp empty).1] at head
    cases head
  trimmed := by
    refine stripWhere_eq_self.mpr ?_
    rintro x (first | final)
    · rw [List.head?_append, head] at first
      cases first
      exact solid.1
    · rw [List.getLast?_append, last] at final
      cases final
      exact solid.2
  inLine := List.forall_mem_append.mpr inLine

/-- The prompt of lines is parsed line by line. -/
theorem Document.parse_join {lines : List (List Char)} (h : ∀ l ∈ lines, IsLine l) :
    Document.parse (String.ofList (join ['\n'] lines)) = Document.empty.addLines lines := by
  have split : splitLines (join ['\n'] lines) = lines :=
    splitLines_join (fun l hl => (h l hl).filled) fun l hl => (h l hl).inLine
  have trimmed : lines.map trim = lines := by
    conv_rhs => rw [← lines.map_id]
    exact List.map_congr_left fun l hl => (h l hl).trimmed
  have kept : lines.filter (!·.isEmpty) = lines := by
    refine List.filter_eq_self.mpr fun l hl => ?_
    simpa using (h l hl).filled
  rw [Document.parse, String.toList_ofList, split, trimmed, kept]

theorem Phrase.isLine_after (p : Phrase) {front : List Char} {c : Char}
    (head : front.head? = some c) (solid : isBlank c = false)
    (inLine : ∀ c ∈ front, isLineEnd c = false) : IsLine (front ++ p.chars) := by
  obtain ⟨before, d, split, last⟩ := p.exists_last
  exact .append head (by rw [split, List.getLast?_concat]) ⟨solid, last⟩ ⟨inLine, p.inLine⟩

theorem Question.isLine (q : Question) : IsLine q.line := by
  have head : "- ".toList.head? = some '-' := rfl
  have last : (q.label.chars ++ " (".toList ++ q.attributes ++ [')']).getLast? = some ')' :=
    List.getLast?_concat
  have inLine : ∀ c ∈ q.label.chars ++ " (".toList ++ q.attributes ++ [')'], isLineEnd c = false := by
    simp only [List.forall_mem_append]
    exact ⟨⟨⟨q.label.inLine, forall_of_all (by decide)⟩, q.attributes_inLine⟩,
      forall_of_all (by decide)⟩
  have line := IsLine.append head last ⟨by decide, by decide⟩
    ⟨forall_of_all (by decide), inLine⟩
  simpa [Question.line] using line

theorem Plan.isLine_message (p : Plan) :
    IsLine ("Message: \"".toList ++ p.message.chars ++ ['"']) := by
  have head : ("Message: \"".toList ++ p.message.chars).head? = some 'M' := rfl
  have last : ['"'].getLast? = some '"' := rfl
  exact .append head last ⟨by decide, by decide⟩
    ⟨List.forall_mem_append.mpr ⟨forall_of_all (by decide), p.message.inLine⟩,
      forall_of_all (by decide)⟩

theorem Part.isLine (part : Part) : ∀ l ∈ part.lines, IsLine l := by
  rw [Part.lines, List.forall_mem_cons, List.forall_mem_map]
  exact ⟨part.title.isLine_after rfl (by decide) (forall_of_all (by decide)), fun q _ => q.isLine⟩

theorem Plan.isLine (p : Plan) : ∀ l ∈ p.lines, IsLine l := by
  simp only [Plan.lines, Plan.opening, Plan.closing, List.forall_mem_append, List.forall_mem_cons,
    List.forall_mem_flatMap]
  refine ⟨⟨⟨?_, ?_, nofun⟩, fun part _ => part.isLine⟩, ?_, p.isLine_message, nofun⟩
  · exact p.title.isLine_after rfl (by decide) (forall_of_all (by decide))
  · exact p.intro.isLine_after rfl (by decide) (forall_of_all (by decide))
  · exact ⟨by decide, by decide, forall_of_all (by decide)⟩

/-! ## Steps -/

namespace Document

theorem trim_after_blank (p : Phrase) : trim (' ' :: p.chars) = p.chars := by
  change trim p.chars = p.chars
  exact p.trimmed

variable {d : Document}

theorem addLine_title (place : d.place = .preamble) {title : Phrase}
    (bare : ∀ c, AtEnd c title.chars → isQuoteMark c = false) :
    d.addLine ("Title: ".toList ++ title.chars) = .ok { d with title := some title.text } := by
  have given : titleLine? ("Title: ".toList ++ title.chars) = some title.chars := by
    change (if (trim (' ' :: title.chars)).isEmpty then none else some (trim (' ' :: title.chars))) = _
    rw [trim_after_blank, if_neg (by simpa using title.filled)]
  have noSection : sectionLine? ("Title: ".toList ++ title.chars) = none := rfl
  have noTrailer : trailerLine? ("Title: ".toList ++ title.chars) = none := rfl
  simp only [addLine, noSection, noTrailer, place, addPreamble, given, stripWhere_eq_self.mpr bare]
  rfl

theorem addLine_intro (place : d.place = .preamble) (intro : Phrase) :
    d.addLine ("Intro: ".toList ++ intro.chars) =
      .ok { d with place := .intro, intro := d.intro ++ [intro.chars] } := by
  have noTitle : titleLine? ("Intro: ".toList ++ intro.chars) = none := rfl
  have given : introLine? ("Intro: ".toList ++ intro.chars) = some intro.chars := by
    change some (trim (' ' :: intro.chars)) = _
    rw [trim_after_blank]
  have noSection : sectionLine? ("Intro: ".toList ++ intro.chars) = none := rfl
  have noTrailer : trailerLine? ("Intro: ".toList ++ intro.chars) = none := rfl
  simp only [addLine, noSection, noTrailer, place, addPreamble, noTitle, given,
    List.isEmpty_iff, intro.filled, if_false]

theorem addLine_section {title : Phrase} (ends : title.chars.getLast? ≠ some ':') :
    d.addLine ("Section: ".toList ++ title.chars) =
      .ok { d with builder := d.builder.openSection title.text, place := .inSection } := by
  have given : sectionLine? ("Section: ".toList ++ title.chars) = some title.chars := by
    change (if (trim (' ' :: title.chars)).isEmpty then none else some (trim (' ' :: title.chars))) = _
    rw [trim_after_blank, if_neg (by simpa using title.filled)]
  simp only [addLine, given, Phrase.dropEndWhile_colon ends]
  rfl

theorem addLine_question (place : d.place = .inSection) (q : Question) :
    d.addLine q.line =
      (d.builder.addLine q.line).map fun builder => { d with builder := builder } := by
  have noSection : sectionLine? q.line = none := rfl
  have noTrailer : trailerLine? q.line = none := rfl
  simp only [addLine, noSection, noTrailer, place]

theorem addLine_end : d.addLine "End / Thank You Page:".toList = .ok { d with place := .trailer } := by
  have noSection : sectionLine? "End / Thank You Page:".toList = none := rfl
  have given : trailerLine? "End / Thank You Page:".toList = some [] := rfl
  simp only [addLine, noSection, given]
  rfl

theorem addLine_message (place : d.place = .trailer) (message : Phrase) :
    d.addLine ("Message: \"".toList ++ message.chars ++ ['"']) = .ok
      { d with trailer := d.trailer ++ ["Message: \"".toList ++ message.chars ++ ['"']] } := by
  have noSection : sectionLine? ("Message: \"".toList ++ message.chars ++ ['"']) = none := rfl
  have noTrailer : trailerLine? ("Message: \"".toList ++ message.chars ++ ['"']) = none := rfl
  simp only [addLine, noSection, noTrailer, place]

end Document

/-! ## Messages -/

def isMessageQuote (c : Char) : Bool := isOpeningQuote c || isClosingQuote c

/-- The text up to the first closing quote in front of one more quote. -/
theorem quoted_inner {cs : List Char} (inLine : ∀ x ∈ cs, x ≠ '\n') :
    (cs ++ ['"']).takeWhile (fun c => c != '\n' && !isClosingQuote c) =
        cs.takeWhile (!isClosingQuote ·) ∧
      ((cs ++ ['"']).drop (cs.takeWhile (!isClosingQuote ·)).length).head?.any isClosingQuote := by
  induction cs with
  | nil => exact ⟨rfl, rfl⟩
  | cons c cs ih =>
      obtain ⟨here, others⟩ := List.forall_mem_cons.mp inLine
      have inside : (c != '\n') = true := bne_iff_ne.mpr here
      cases closing : isClosingQuote c with
      | true => simp [closing]
      | false => simpa [closing, inside] using ih others

theorem trailerMessage?_line {c : Char} {cs : List Char} (inLine : ∀ x ∈ c :: cs, x ≠ '\n') :
    trailerMessage? ["Message: \"".toList ++ c :: cs ++ ['"']] =
      nonEmpty? (String.ofList (stripWhere isMessageQuote
        (trim (c :: cs.takeWhile (!isClosingQuote ·))))) := by
  obtain ⟨here, others⟩ := List.forall_mem_cons.mp inLine
  obtain ⟨inner, closed⟩ := quoted_inner others
  have quoted : quotedMessage? ('"' :: c :: (cs ++ ['"'])) =
      some (c :: cs.takeWhile (!isClosingQuote ·)) := by
    have inside : (c != '\n') = true := bne_iff_ne.mpr here
    have opening : isOpeningQuote '"' = true := rfl
    simp only [quotedMessage?, inner, closed, inside, opening, Bool.and_self, if_true]
  have found : messageHere? ("Message: \"".toList ++ c :: cs ++ ['"']) =
      some (c :: cs.takeWhile (!isClosingQuote ·)) := by
    have word : dropWord? "message".toList ("Message: \"".toList ++ c :: cs ++ ['"']) =
        some (':' :: ' ' :: '"' :: c :: (cs ++ ['"'])) := rfl
    have colon : dropPrefix? [':'] (trimStart (':' :: ' ' :: '"' :: c :: (cs ++ ['"']))) =
        some (' ' :: '"' :: c :: (cs ++ ['"'])) := rfl
    have body : trimStart (' ' :: '"' :: c :: (cs ++ ['"'])) = '"' :: c :: (cs ++ ['"']) := rfl
    simp only [messageHere?, word, Option.bind_eq_bind, Option.bind_some, colon, body, quoted]
    rfl
  have first : firstMatch (fun _ cs => messageHere? cs) none
      (join ['\n'] ["Message: \"".toList ++ c :: cs ++ ['"']]) =
        some (c :: cs.takeWhile (!isClosingQuote ·)) := by
    rw [join, List.intercalate_singleton]
    exact firstMatch_of_here found
  have quotes : (fun c => isOpeningQuote c || isClosingQuote c) = isMessageQuote := rfl
  rw [trailerMessage?, first, Option.bind_eq_bind, Option.bind_some, quotes]

/-- What is read up to the first closing quote and stripped of blanks and quotes is the whole text
exactly when there is nothing to stop at and nothing to strip. -/
theorem stripMessage_eq_iff {c : Char} {cs : List Char} (trimmed : trim (c :: cs) = c :: cs) :
    stripWhere isMessageQuote (trim (c :: cs.takeWhile (!isClosingQuote ·))) = c :: cs ↔
      (∀ x ∈ c :: cs, isClosingQuote x = false) ∧
        ∀ x, AtEnd x (c :: cs) → isOpeningQuote x = false := by
  have ends : stripWhere isMessageQuote (c :: cs) = c :: cs ↔
      ∀ x, AtEnd x (c :: cs) → isMessageQuote x = false := stripWhere_eq_self
  constructor
  · intro same
    have short := ((stripWhere_sublist isMessageQuote _).trans
      (stripWhere_sublist isBlank (c :: cs.takeWhile (!isClosingQuote ·)))).length_le
    have all : cs.takeWhile (!isClosingQuote ·) = cs := by
      refine (List.takeWhile_sublist _).eq_of_length_le ?_
      rw [← trim, same] at short
      simpa using short
    rw [all, trimmed, ends] at same
    have open_only (x : Char) (atEnd : AtEnd x (c :: cs)) :
        isOpeningQuote x = false ∧ isClosingQuote x = false := by
      simpa [isMessageQuote] using same x atEnd
    refine ⟨List.forall_mem_cons.mpr ⟨(open_only c (.inl rfl)).2, fun x hx => ?_⟩,
      fun x atEnd => (open_only x atEnd).1⟩
    simpa using List.takeWhile_eq_self_iff.mp all x hx
  · rintro ⟨unclosed, bare⟩
    have all : cs.takeWhile (!isClosingQuote ·) = cs :=
      List.takeWhile_eq_self_iff.mpr fun x hx => by
        simpa using unclosed x (List.mem_cons_of_mem c hx)
    rw [all, trimmed, ends]
    intro x atEnd
    have inside : x ∈ c :: cs := atEnd.elim List.mem_of_head? List.mem_of_getLast?
    rw [isMessageQuote, bare x atEnd, unclosed x inside]
    rfl

/-- A line with a message in quotes gives this message exactly when it can be told from them. -/
theorem trailerMessage?_eq_iff (message : Phrase) :
    trailerMessage? ["Message: \"".toList ++ message.chars ++ ['"']] = some message.text ↔
      (∀ c ∈ message.chars, isClosingQuote c = false) ∧
        ∀ c, AtEnd c message.chars → isOpeningQuote c = false := by
  obtain ⟨c, cs, split, _⟩ := message.exists_head
  have inLine : ∀ x ∈ c :: cs, x ≠ '\n' := by
    rintro x hx rfl
    exact absurd (message.inLine _ (split ▸ hx)) (by decide)
  rw [split, trailerMessage?_line inLine, nonEmpty?, Phrase.text, split,
    ← stripMessage_eq_iff (split ▸ message.trimmed)]
  generalize stripWhere isMessageQuote _ = kept
  constructor
  · intro same
    split at same
    · cases same
    · exact String.ofList_injective (Option.some.inj same)
  · rintro rfl
    exact if_neg (by simp)

end PromptForm.Outline
