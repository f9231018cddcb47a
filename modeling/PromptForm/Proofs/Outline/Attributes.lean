import PromptForm.Proofs.Outline.Line
import PromptForm.Proofs.Outline.Plan

/-! # Attributes of questions

The attributes of a question name its kind and say whether an answer is required. They list its
options exactly when those can be told from the signs around them.
-/

namespace PromptForm.Outline

open Text

/-- A text that does not end in a colon has none to drop. -/
theorem Phrase.dropEndWhile_colon {p : Phrase} (h : p.chars.getLast? ≠ some ':') :
    dropEndWhile (· == ':') p.chars = p.chars := by
  refine dropEndWhile_eq_self.mpr fun c last => ?_
  rw [beq_eq_false_iff_ne]
  rintro rfl
  exact h last

/-! ## Lists of options -/

def optionParts (cs : List Char) : List (List Char) :=
  match splitOn ',' cs with
  | [part] => splitOn '/' part
  | parts => parts

def optionOf (part : List Char) : List Char := stripWhere isOptionPadding (trim part)

theorem splitOptions_eq (cs : List Char) : splitOptions cs =
    (((optionParts cs).map optionOf).filter (!·.isEmpty)).map String.ofList := rfl

theorem optionParts_of_comma {cs : List Char} (h : ',' ∈ cs) : optionParts cs = splitOn ',' cs := by
  unfold optionParts
  split
  · rename_i part single
    have same := join_splitOn ',' cs
    rw [single, join, List.intercalate_singleton] at same
    have inside : part ∈ splitOn ',' cs := by
      rw [single]
      exact List.mem_cons_self
    exact absurd (same ▸ h) (not_mem_of_mem_splitOn inside)
  · rfl

theorem optionParts_of_no_comma {cs : List Char} (h : ',' ∉ cs) :
    optionParts cs = splitOn '/' cs := by
  rw [optionParts, splitOn_of_not_mem h]

theorem mem_optionOf {part : List Char} {c : Char} (h : c ∈ optionOf part) : c ∈ part :=
  (stripWhere_sublist isBlank part).subset ((stripWhere_sublist isOptionPadding _).subset h)

/-- The list of options as the attributes have it after the colon. -/
def listed (options : List Phrase) : List Char := ' ' :: join [',', ' '] (options.map Phrase.chars)

theorem listed_eq {options : List Phrase} (h : options ≠ []) :
    listed options = join [','] (options.map fun o => ' ' :: o.chars) := by
  rw [listed, join_comma_space (by simpa using h), List.map_map]
  rfl

theorem mem_listed {options : List Phrase} {o : Phrase} (ho : o ∈ options) {c : Char}
    (hc : c ∈ o.chars) : c ∈ listed options :=
  List.mem_cons_of_mem _ (mem_join_of_mem _ (List.mem_map_of_mem ho) hc)

theorem optionParts_listed {options : List Phrase} (some_option : options ≠ [])
    (apart : ∀ o ∈ options, ',' ∉ o.chars) (whole : ∀ o, options = [o] → '/' ∉ o.chars) :
    optionParts (listed options) = options.map fun o => ' ' :: o.chars := by
  have parts : splitOn ',' (listed options) = options.map fun o => ' ' :: o.chars := by
    rw [listed_eq some_option]
    refine splitOn_join (by simpa using some_option) ?_
    simpa using apart
  unfold optionParts
  split
  · rename_i part single
    rw [single] at parts
    obtain ⟨o, rfl, rfl⟩ := List.map_eq_singleton_iff.mp parts.symm
    exact splitOn_of_not_mem (by simpa using whole o rfl)
  · exact parts

theorem optionOf_phrase {o : Phrase} (bare : ∀ c, AtEnd c o.chars → isOptionPadding c = false) :
    optionOf (' ' :: o.chars) = o.chars := by
  have blank : trim (' ' :: o.chars) = trim o.chars := rfl
  rw [optionOf, blank, o.trimmed, stripWhere_eq_self.mpr bare]

/-- What an option is read from, and how. -/
theorem mem_splitOptions {cs : List Char} {s : String} (h : s ∈ splitOptions cs) :
    ∃ part ∈ optionParts cs, s = String.ofList (optionOf part) := by
  rw [splitOptions_eq] at h
  obtain ⟨_, kept, rfl⟩ := List.mem_map.mp h
  obtain ⟨part, inside, rfl⟩ := List.mem_map.mp (List.mem_filter.mp kept).1
  exact ⟨part, inside, rfl⟩

/-- Options that a list of them is read as can be told from the signs around them. -/
theorem separable_of_splitOptions {options : List Phrase}
    (same : splitOptions (listed options) = options.map Phrase.text) : Separable options := by
  have source (o : Phrase) (ho : o ∈ options) :
      ∃ part ∈ optionParts (listed options), o.chars = optionOf part := by
    have inside : o.text ∈ splitOptions (listed options) := by
      rw [same]
      exact List.mem_map_of_mem ho
    obtain ⟨part, hpart, read⟩ := mem_splitOptions inside
    exact ⟨part, hpart, String.ofList_injective read⟩
  have apart (o : Phrase) (ho : o ∈ options) : ',' ∉ o.chars := by
    intro comma
    obtain ⟨part, hpart, read⟩ := source o ho
    rw [optionParts_of_comma (mem_listed ho comma)] at hpart
    rw [read] at comma
    exact not_mem_of_mem_splitOn hpart (mem_optionOf comma)
  refine ⟨apart, fun o ho c atEnd => ?_, ?_⟩
  · obtain ⟨part, _, read⟩ := source o ho
    rw [read] at atEnd
    exact keeps_of_atEnd_stripWhere atEnd
  · rintro o rfl slash
    have comma : ',' ∉ listed [o] := by
      simpa [listed, join] using apart o (List.mem_singleton_self o)
    obtain ⟨part, hpart, read⟩ := source o (List.mem_singleton_self o)
    rw [optionParts_of_no_comma comma] at hpart
    rw [read] at slash
    exact not_mem_of_mem_splitOn hpart (mem_optionOf slash)

/-- A list of options is read as these options exactly when they can be told from the signs around
them. -/
theorem splitOptions_listed {options : List Phrase} (some_option : options ≠ []) :
    splitOptions (listed options) = options.map Phrase.text ↔ Separable options := by
  constructor
  · exact separable_of_splitOptions
  · intro separable
    have read : (optionParts (listed options)).map optionOf = options.map Phrase.chars := by
      rw [optionParts_listed some_option separable.apart separable.whole, List.map_map]
      exact List.map_congr_left fun o ho => optionOf_phrase (separable.bare o ho)
    have filled : ∀ cs ∈ options.map Phrase.chars, (!cs.isEmpty) = true := by
      simp [Phrase.filled]
    rw [splitOptions_eq, read, List.filter_eq_self.mpr filled, List.map_map]
    rfl

/-- More than one option, with nothing to strip and no comma inside. -/
theorem Separable.of_several {options : List Phrase}
    (each : ∀ o ∈ options, ',' ∉ o.chars ∧ stripWhere isOptionPadding o.chars = o.chars)
    (several : options.length ≠ 1) : Separable options where
  apart o ho := (each o ho).1
  bare o ho := stripWhere_eq_self.mp (each o ho).2
  whole := by
    rintro o rfl
    exact absurd rfl several

/-! ## Attributes -/

namespace Question

/-- What the attributes say in front of the options. -/
theorem head_meaning (word : KindWord) (required : Bool) :
    offersYesNo (lower (head word required)) = false ∧
    kindNamed? (lower (head word required)) = some word.kind ∧
    hasPhrase "required".toList (lower (head word required)) = required ∧
    rangeDigits? (head word required) = none := by
  have each : ∀ word ∈ KindWord.all, ∀ required ∈ [false, true],
      offersYesNo (lower (head word required)) = false ∧
      kindNamed? (lower (head word required)) = some word.kind ∧
      hasPhrase "required".toList (lower (head word required)) = required ∧
      rangeDigits? (head word required) = none := by
    decide +kernel
  exact each word word.mem_all required (by cases required <;> decide)

theorem head_no_colon (word : KindWord) (required : Bool) :
    ∀ c ∈ head word required, (c != ':') = true :=
  List.all_eq_true.mp (by cases word <;> cases required <;> decide)

theorem attributes_inLine (q : Question) : ∀ c ∈ q.attributes, isLineEnd c = false := by
  have before (word : KindWord) (required : Bool) : ∀ c ∈ head word required, isLineEnd c = false :=
    forall_of_all (by cases word <;> cases required <;> decide)
  have between : ∀ c ∈ ": ".toList ++ ", ".toList, isLineEnd c = false :=
    forall_of_all (by decide)
  intro c hc
  rw [attributes, List.mem_append] at hc
  rcases hc with early | late
  · exact before q.word q.required c early
  · split at late
    · cases late
    · by_cases sign : c ∈ ": ".toList ++ ", ".toList
      · exact between c sign
      · simp only [List.mem_append, not_or] at sign
        rw [List.mem_append, or_iff_right sign.1, mem_join sign.2] at late
        obtain ⟨_, offered, inside⟩ := late
        obtain ⟨o, _, rfl⟩ := List.mem_map.mp offered
        exact o.inLine c inside

/-- The options that are read from the attributes of a question. -/
def optionsRead (q : Question) : List String :=
  if q.options.isEmpty then [] else splitOptions (listed q.options)

theorem optionsRead_eq_iff (q : Question) :
    q.optionsRead = q.options.map Phrase.text ↔ Separable q.options := by
  cases none_offered : q.options with
  | nil =>
      rw [optionsRead, none_offered]
      exact iff_of_true rfl ⟨nofun, nofun, nofun⟩
  | cons o rest =>
      rw [optionsRead, none_offered]
      exact splitOptions_listed (List.cons_ne_nil o rest)

/-- What stands in the attributes from the colon on. -/
def listing (q : Question) : List Char :=
  if q.options.isEmpty then [] else ':' :: listed q.options

theorem attributes_eq (q : Question) : q.attributes = head q.word q.required ++ q.listing := by
  rw [attributes, listing]
  cases q.options.isEmpty <;> rfl

theorem optionsRead_listing (q : Question) :
    (match q.listing with
      | [] => []
      | _ :: tail => splitOptions tail) = q.optionsRead := by
  rw [listing, optionsRead]
  cases q.options.isEmpty <;> rfl

theorem range_of_readable {q : Question} (readable : ¬ EndlessRange q.attributes) :
    ∃ low high, range q.attributes = .ok (low, high) ∧
      (q.word.offers = false → low = none ∧ high = none) := by
  cases offers : q.word.offers with
  | false =>
      have none_offered : q.options.isEmpty = true := by rw [q.offered, offers]; rfl
      refine ⟨none, none, ?_, fun _ => ⟨rfl, rfl⟩⟩
      rw [attributes, none_offered, if_pos rfl, List.append_nil, range,
        (head_meaning q.word q.required).2.2.2]
  | true =>
      cases range : range q.attributes with
      | ok ends => exact ⟨ends.1, ends.2, rfl, fun plain => by cases plain⟩
      | error e => exact absurd (range_error_iff.mp ⟨e, range⟩) readable

/-- The attributes of a question can be read unless they have an endless range. -/
theorem parse_attributes {q : Question} (readable : ¬ EndlessRange q.attributes) : ∃ low high,
    Attributes.parse q.attributes =
      .ok ⟨some q.word.kind, q.required, q.optionsRead, low, high, false⟩ ∧
    (q.word.offers = false → low = none ∧ high = none) := by
  obtain ⟨low, high, range, plain⟩ := range_of_readable readable
  obtain ⟨yesNo, kind, required, _⟩ := head_meaning q.word q.required
  have colon := head_no_colon q.word q.required
  have front : q.attributes.takeWhile (· != ':') = head q.word q.required := by
    rw [attributes_eq, List.takeWhile_append_of_pos colon, listing]
    cases q.options.isEmpty <;> simp
  have back : q.attributes.dropWhile (· != ':') = q.listing := by
    rw [attributes_eq, List.dropWhile_append_of_pos colon, listing]
    cases q.options.isEmpty <;> rfl
  refine ⟨low, high, ?_, plain⟩
  simp only [Attributes.parse, range, front, back, yesNo, kind, required]
  rw [← optionsRead_listing]
  rfl

end Question

end PromptForm.Outline
