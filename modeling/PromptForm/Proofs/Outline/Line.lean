import PromptForm.Outline.Line
import PromptForm.Proofs.Field.Kind
import PromptForm.Proofs.Lowering.Groups

/-! # Fields of lines

Every field that a line describes has a label, is of a kind that always gives blocks, and holds only
whole numbers. None of them depends on another field yet.
-/

namespace PromptForm

/-- The kinds that give no blocks when a field has no content. -/
def Kind.mayVanish : Kind → Bool
  | .heading | .textBlock | .media => true
  | _ => false

namespace Field

/-- A field with a label, of a kind that always gives blocks, whose limits are whole numbers. -/
structure Usual (f : Field) : Prop where
  label : isBlankText f.label = false
  kind : ∃ kind : Kind, f.type = kind.name ∧ kind.mayVanish = false
  rating : ∀ x, f.maxRating ≠ some (.double x)
  size : ∀ x, f.maxFileSize ≠ some (.double x)

namespace Usual

variable {f : Field}

theorem titled (h : f.Usual) : f.Titled := by
  have given : f.label.isEmpty = false := by
    cases empty : f.label.isEmpty with
    | false => rfl
    | true =>
        have blank := h.label
        rw [String.isEmpty_iff.mp empty] at blank
        exact absurd rfl (ne_true_of_eq_false blank)
  rw [Titled, shownLabel, given]
  exact h.label

theorem kind? (h : f.Usual) : ∃ kind : Kind, f.kind? = some kind ∧ kind.mayVanish = false := by
  obtain ⟨kind, type, stays⟩ := h.kind
  exact ⟨kind, by rw [Field.kind?, type, Kind.ofName?_name], stays⟩

theorem fault?_eq_none (h : f.Usual) : f.fault? = none := by
  obtain ⟨kind, known, _⟩ := h.kind?
  rw [fault?, known]
  cases kind <;> try rfl
  case rating =>
    cases most : f.maxRating with
    | none => rfl
    | some n =>
        cases n with
        | int n => rfl
        | double x => exact absurd most (h.rating x)
  case fileUpload =>
    cases most : f.maxFileSize with
    | none => simp only [fileSize, most]
    | some n =>
        cases n with
        | int n =>
            cases zero : (Number.int n).isZero <;>
              simp only [fileSize, most, Number.bytes?, zero, if_true, Bool.false_eq_true, if_false]
        | double x => exact absurd most (h.size x)

theorem cluster? (h : f.Usual) : ∃ c, f.cluster? = some c := by
  obtain ⟨kind, known, stays⟩ := h.kind?
  rw [Field.cluster?, known]
  cases kind <;> first | exact ⟨_, rfl⟩ | cases stays

end Usual

/-- A usual field that depends on no other. -/
structure Asked (f : Field) : Prop extends f.Usual where
  free : f.showIf = none

theorem asked_plain (kind : Kind) (label : String) (stays : kind.mayVanish = false)
    (shown : isBlankText label = false) : (Field.plain kind label).Asked where
  label := shown
  kind := ⟨kind, rfl, stays⟩
  rating _ := nofun
  size _ := nofun
  free := rfl

end Field

namespace Outline

open PromptForm.Field

theorem asked_consentField (statement : List Char) : (consentField statement).Asked :=
  { asked_plain .consentCheckbox "Consent" rfl (by decide) with }

theorem kindNamed?_stays {lowered : List Char} {kind : Kind} (h : kindNamed? lowered = some kind) :
    kind.mayVanish = false := by
  have rows : ∀ row ∈ kindWords, row.2.mayVanish = false := by decide
  obtain ⟨row, found, rfl⟩ := Option.map_eq_some_iff.mp h
  exact rows row (List.mem_of_find?_eq_some found)

theorem kindOfLabel_stays (label : String) : (kindOfLabel label).mayVanish = false := by
  simp only [kindOfLabel]
  repeat' split
  all_goals rfl

theorem asked_commonQuestion {label : String} (shown : isBlankText label = false) {f : Field}
    (h : commonQuestion? label = some f) : f.Asked := by
  simp only [commonQuestion?] at h
  split at h
  · cases h
    exact { asked_plain .multipleChoice label rfl shown with }
  · split at h
    · cases h
      exact { asked_plain .dropdown label rfl shown with }
    · cases h

theorem asked_fieldOf {kind : Kind} (stays : kind.mayVanish = false) {label : String}
    (shown : isBlankText label = false) (a : Attributes) : (fieldOf kind label a).Asked := by
  have plain := asked_plain kind label stays shown
  cases kind with
  | rating =>
      simp only [fieldOf]
      split
      · refine { plain with rating := fun x same => ?_ }
        cases same
      · exact { plain with }
  | linearScale | nps | likert =>
      simp only [fieldOf]
      split <;> exact { plain with }
  | heading | textBlock | media => cases stays
  | _ => exact { plain with }

theorem Attributes.parse_kind {cs : List Char} {a : Attributes} (h : Attributes.parse cs = .ok a)
    {kind : Kind} (named : a.kind = some kind) : kind.mayVanish = false := by
  have either (yesNo listed : Bool) {lowered : List Char}
      (chosen : (if listed then some .multipleChoice else
        if yesNo then some .multipleChoice else kindNamed? lowered) = some kind) :
      kind.mayVanish = false := by
    split at chosen
    · cases chosen
      rfl
    · split at chosen
      · cases chosen
        rfl
      · exact kindNamed?_stays chosen
  simp only [Attributes.parse] at h
  cases bounds : range cs with
  | error e => simp [bounds, bind, Except.bind] at h
  | ok ends =>
      rw [bounds] at h
      cases h
      exact either _ _ named

def LineParts.text (parts : LineParts) : String :=
  String.ofList (Text.trim (Text.dropEndWhile (· == ':') (Text.trim parts.label)))

theorem LineParts.text_eq (parts : LineParts) : parts.text =
    trimmed (String.ofList (Text.dropEndWhile (· == ':') (Text.trim parts.label))) := by
  rw [text, trimmed, onText, String.toList_ofList]

theorem LineParts.text_shown {parts : LineParts} (h : parts.text.isEmpty = false) :
    isBlankText parts.text = false := by
  rw [parts.text_eq] at h ⊢
  exact isBlankText_trimmed h

theorem LineParts.trimmed_text (parts : LineParts) : trimmed parts.text = parts.text := by
  rw [parts.text_eq, trimmed_trimmed]

def fieldWith (label : String) (a : Attributes) : Field :=
  match a.kind, commonQuestion? label with
  | some kind, _ => fieldOf kind label a
  | none, some question => commonField question a.required
  | none, none => fieldOf (kindOfLabel label) label a

theorem fieldOfParts_eq (parts : LineParts) :
    fieldOfParts parts =
      if parts.text.isEmpty then .ok none
      else if !parts.bulleted && parts.attributes.isNone then .ok (commonQuestion? parts.text)
      else
        match parts.attributes with
        | some cs => (Attributes.parse cs).map fun a => some (fieldWith parts.text a)
        | none => .ok (some (fieldWith parts.text Attributes.none)) := by
  have finish (label : String) (a : Attributes) : (match a.kind, commonQuestion? label with
      | some kind, _ => pure (some (fieldOf kind label a))
      | none, some question => pure (some (commonField question a.required))
      | none, none => pure (some (fieldOf (kindOfLabel label) label a)) :
        Except Failure (Option Field)) = .ok (some (fieldWith label a)) := by
    simp only [fieldWith]
    cases a.kind <;> cases commonQuestion? label <;> rfl
  have text : String.ofList (Text.trim (Text.dropEndWhile (· == ':') (Text.trim parts.label))) =
      parts.text := rfl
  simp only [fieldOfParts, text]
  cases parts.text.isEmpty with
  | true => rfl
  | false =>
      simp only [Bool.false_eq_true, if_false]
      cases !parts.bulleted && parts.attributes.isNone with
      | true => rfl
      | false =>
          simp only [Bool.false_eq_true, if_false]
          cases parts.attributes with
          | none =>
              simp only [pure_bind]
              generalize Attributes.none = a
              exact finish parts.text a
          | some cs =>
              cases read : Attributes.parse cs with
              | error e => simp only [read, Except.map]; rfl
              | ok a =>
                  simp only [read, Except.map]
                  exact finish parts.text a

theorem commonQuestion?_label {label : String} {f : Field} (h : commonQuestion? label = some f) :
    f.label = label ∧ ∃ texts, (texts = contactMethods ∨ texts = timesOfDay) ∧
      f.options = texts.map .text := by
  simp only [commonQuestion?] at h
  split at h
  · cases h
    exact ⟨rfl, _, .inl rfl, rfl⟩
  · split at h
    · cases h
      exact ⟨rfl, _, .inr rfl, rfl⟩
    · cases h

theorem fieldOf_label (kind : Kind) (label : String) (a : Attributes) :
    (fieldOf kind label a).label = label := by
  cases kind <;> try rfl
  all_goals
    simp only [fieldOf]
    split <;> rfl

theorem fieldWith_label (label : String) (a : Attributes) : (fieldWith label a).label = label := by
  unfold fieldWith
  split
  · exact fieldOf_label _ _ _
  · rename_i found
    exact (commonQuestion?_label found).1
  · exact fieldOf_label _ _ _

theorem asked_fieldWith {label : String} (shown : isBlankText label = false) {a : Attributes}
    (kinds : ∀ kind, a.kind = some kind → kind.mayVanish = false) : (fieldWith label a).Asked := by
  rw [fieldWith]
  cases named : a.kind with
  | some kind => exact asked_fieldOf (kinds kind named) shown a
  | none =>
      cases found : commonQuestion? label with
      | some question => exact { asked_commonQuestion shown found with }
      | none => exact asked_fieldOf (kindOfLabel_stays label) shown a

/-- What the field of a line may be. -/
inductive Described (f : Field) : Prop
  | consent (statement : List Char) : f = consentField statement → Described f
  | common {label : String} : isBlankText label = false → commonQuestion? label = some f →
      Described f
  | labelled {label : String} {a : Attributes} : isBlankText label = false →
      (∀ kind, a.kind = some kind → kind.mayVanish = false) → f = fieldWith label a → Described f

theorem described_of_parts {parts : LineParts} {f : Field}
    (h : fieldOfParts parts = .ok (some f)) : Described f := by
  rw [fieldOfParts_eq] at h
  split at h
  · cases h
  · rename_i given
    have shown := LineParts.text_shown (eq_false_of_ne_true given)
    split at h
    · exact .common shown (Except.ok.inj h)
    · split at h
      · rename_i cs _
        cases read : Attributes.parse cs with
        | error e => simp [read, Except.map] at h
        | ok a =>
            rw [read] at h
            cases h
            exact .labelled shown (fun _ named => Attributes.parse_kind read named) rfl
      · obtain rfl := Option.some.inj (Except.ok.inj h)
        exact .labelled shown (fun _ named => by cases named) rfl

theorem described_of_line {cs : List Char} {f : Field} (h : fieldOfLine cs = .ok (some f)) :
    Described f := by
  simp only [fieldOfLine] at h
  split at h
  · exact .consent _ (Option.some.inj (Except.ok.inj h)).symm
  · split at h
    · exact described_of_parts h
    · cases h

/-- A field that a line describes is a usual one and depends on no other. -/
theorem asked_of_line {cs : List Char} {f : Field} (h : fieldOfLine cs = .ok (some f)) :
    f.Asked := by
  cases described_of_line h with
  | consent statement same => exact same ▸ asked_consentField statement
  | common shown asked => exact asked_commonQuestion shown asked
  | labelled shown kinds same => exact same ▸ asked_fieldWith shown kinds

theorem label_of_parts {parts : LineParts} {f : Field} (h : fieldOfParts parts = .ok (some f)) :
    f.label = parts.text := by
  rw [fieldOfParts_eq] at h
  split at h
  · cases h
  · split at h
    · exact (commonQuestion?_label (Except.ok.inj h)).1
    · split at h
      · rename_i cs _
        cases read : Attributes.parse cs with
        | error e => simp [read, Except.map] at h
        | ok a =>
            rw [read] at h
            cases h
            exact fieldWith_label _ a
      · obtain rfl := Option.some.inj (Except.ok.inj h)
        exact fieldWith_label _ _

/-- The label of a field that a line describes has no white space at its ends. -/
theorem neat_of_line {cs : List Char} {f : Field} (h : fieldOfLine cs = .ok (some f)) :
    trimmed f.label = f.label := by
  simp only [fieldOfLine] at h
  split at h
  · obtain rfl := Option.some.inj (Except.ok.inj h)
    exact (by decide : trimmed "Consent" = "Consent")
  · split at h
    · rename_i parts _
      rw [label_of_parts h, parts.trimmed_text]
    · cases h

/-! ## Lines that cannot be read -/

/-- The first range in the attributes has a bound of too many digits. -/
def EndlessRange (cs : List Char) : Prop :=
  ∃ low high, rangeDigits? cs = some (low, high) ∧
    (Numeral.maxDigits < low.length ∨ Numeral.maxDigits < high.length)

theorem readNumber_error_iff {digits : List Char} :
    (∃ e, readNumber digits = .error e) ↔ Numeral.maxDigits < digits.length := by
  simp only [readNumber, Numeral.readDigits]
  by_cases long : Numeral.maxDigits < digits.length
  · simp [long]
  · simp [long]

theorem range_error_iff {cs : List Char} : (∃ e, range cs = .error e) ↔ EndlessRange cs := by
  have each (low high : List Char) : (∃ e, (do
      let low ← readNumber low
      let high ← readNumber high
      return (some low, some high) : Except Failure (Option Int × Option Int)) = .error e) ↔
        Numeral.maxDigits < low.length ∨ Numeral.maxDigits < high.length := by
    rw [← readNumber_error_iff, ← readNumber_error_iff]
    cases readNumber low <;> cases readNumber high <;>
      simp [bind, Except.bind, pure, Except.pure]
  simp only [range, EndlessRange]
  split
  · rename_i found
    simp [found]
  · rename_i low high found
    rw [each]
    constructor
    · exact fun long => ⟨low, high, found, long⟩
    · rintro ⟨low', high', found', long⟩
      rw [found] at found'
      cases found'
      exact long

theorem Attributes.parse_error_iff {cs : List Char} :
    (∃ e, Attributes.parse cs = .error e) ↔ EndlessRange cs := by
  rw [← range_error_iff]
  simp only [Attributes.parse]
  cases range cs <;> simp [bind, Except.bind, pure, Except.pure]

/-- A line that is read as a field with attributes, among which is an endless range. -/
def Endless (cs : List Char) : Prop :=
  consentLine? cs = none ∧ ∃ parts attributes, lineParts? cs = some parts ∧
    parts.text.isEmpty = false ∧ parts.attributes = some attributes ∧ EndlessRange attributes

theorem fieldOfParts_error_iff {parts : LineParts} :
    (∃ e, fieldOfParts parts = .error e) ↔ parts.text.isEmpty = false ∧
      ∃ attributes, parts.attributes = some attributes ∧ EndlessRange attributes := by
  rw [fieldOfParts_eq]
  cases parts.text.isEmpty with
  | true => simp
  | false =>
      cases given : parts.attributes with
      | none => cases parts.bulleted <;> simp
      | some attributes =>
          simp only [Bool.false_eq_true, if_false, Option.isNone_some, Bool.and_false, true_and,
            Option.some.injEq, exists_eq_left', ← Attributes.parse_error_iff]
          cases Attributes.parse attributes <;> simp [Except.map]

/-- Only an endless range keeps a line from being read. -/
theorem fieldOfLine_error_iff {cs : List Char} :
    (∃ e, fieldOfLine cs = .error e) ↔ Endless cs := by
  simp only [fieldOfLine, Endless]
  cases consentLine? cs with
  | some statement => simp
  | none =>
      cases lineParts? cs with
      | none => simp
      | some parts => simp [fieldOfParts_error_iff]

end Outline

end PromptForm
