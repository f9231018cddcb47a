import PromptForm.Outline.Document
import PromptForm.Proofs.Text.Line

/-! # Plans

A plan says what a form is to ask, in texts that can stand in a line. It is written down as an
outline: a title and an introduction, headed sections with a question a line, and a closing message.
-/

namespace PromptForm.Outline

/-- A text that can stand in a line. -/
structure Phrase where
  chars : List Char
  filled : chars ≠ []
  trimmed : Text.trim chars = chars
  inLine : ∀ c ∈ chars, Text.isLineEnd c = false

namespace Phrase

def text (p : Phrase) : String := String.ofList p.chars

theorem solid_of_atEnd (p : Phrase) {c : Char} (h : Text.AtEnd c p.chars) :
    Text.isBlank c = false :=
  Text.stripWhere_eq_self.mp p.trimmed c h

theorem exists_head (p : Phrase) : ∃ c rest, p.chars = c :: rest ∧ Text.isBlank c = false := by
  obtain ⟨c, rest, split⟩ := List.exists_cons_of_ne_nil p.filled
  exact ⟨c, rest, split, p.solid_of_atEnd (.inl (by rw [split]; rfl))⟩

theorem exists_last (p : Phrase) : ∃ front c, p.chars = front ++ [c] ∧ Text.isBlank c = false := by
  have last := List.dropLast_append_getLast p.filled
  exact ⟨_, _, last.symm, p.solid_of_atEnd (.inr (List.getLast?_eq_some_getLast p.filled))⟩

end Phrase

/-- The words for the kind of a question. -/
inductive KindWord where
  | shortText
  | longText
  | email
  | phone
  | date
  | number
  | url
  | file
  | signature
  | rating
  | nps
  | likert
  | scale
  | dropdown
  | multipleChoice
  | checkboxes
  deriving DecidableEq, Repr

namespace KindWord

def all : List KindWord := [
  .shortText, .longText, .email, .phone, .date, .number, .url, .file, .signature, .rating, .nps,
  .likert, .scale, .dropdown, .multipleChoice, .checkboxes]

theorem mem_all (word : KindWord) : word ∈ all := by
  cases word <;> decide

def text : KindWord → String
  | shortText => "short text"
  | longText => "long text"
  | email => "email"
  | phone => "phone"
  | date => "date"
  | number => "number"
  | url => "url"
  | file => "file"
  | signature => "signature"
  | rating => "rating"
  | nps => "nps"
  | likert => "likert"
  | scale => "scale"
  | dropdown => "dropdown"
  | multipleChoice => "multiple choice"
  | checkboxes => "checkboxes"

def kind : KindWord → Kind
  | shortText => .text
  | longText => .textarea
  | email => .email
  | phone => .phone
  | date => .date
  | number => .number
  | url => .url
  | file => .fileUpload
  | signature => .signature
  | rating => .rating
  | nps => .nps
  | likert => .likert
  | scale => .linearScale
  | dropdown => .dropdown
  | multipleChoice => .multipleChoice
  | checkboxes => .checkboxes

/-- Is the answer picked from options? -/
def offers : KindWord → Bool
  | dropdown | multipleChoice | checkboxes => true
  | _ => false

end KindWord

/-- A question. It has options exactly if its answer is picked from some. -/
structure Question where
  label : Phrase
  word : KindWord
  required : Bool
  options : List Phrase
  offered : options.isEmpty = !word.offers

namespace Question

/-- The attributes in front of the options. -/
def head (word : KindWord) (required : Bool) : List Char :=
  word.text.toList ++ if required then ", required".toList else []

def attributes (q : Question) : List Char :=
  head q.word q.required ++
    if q.options.isEmpty then []
    else ": ".toList ++ Text.join ", ".toList (q.options.map Phrase.chars)

/-- The line of a question, such as `- Size (dropdown, required: S, M, L)`. -/
def line (q : Question) : List Char :=
  "- ".toList ++ q.label.chars ++ " (".toList ++ q.attributes ++ [')']

/-- The field that asks the question. -/
def field (q : Question) : Field :=
  { Field.plain q.word.kind q.label.text with
    required := q.required
    options := q.options.map fun o => .text o.text
    given := [.type, .label, .required] ++ if q.word.offers then [.options] else [] }

end Question

/-- A section to be written. -/
structure Part where
  title : Phrase
  questions : List Question
  filled : questions ≠ []

namespace Part

def lines (p : Part) : List (List Char) :=
  ("Section: ".toList ++ p.title.chars) :: p.questions.map Question.line

def fields (p : Part) : List Field := p.questions.map Question.field

def toSection (p : Part) : Section := ⟨p.title.text, none, p.fields, []⟩

end Part

/-- A form to be written. -/
structure Plan where
  title : Phrase
  intro : Phrase
  parts : List Part
  message : Phrase
  filled : parts ≠ []

namespace Plan

def questions (p : Plan) : List Question := p.parts.flatMap Part.questions

/-- The lines before the first section. -/
def opening (p : Plan) : List (List Char) :=
  ["Title: ".toList ++ p.title.chars, "Intro: ".toList ++ p.intro.chars]

/-- The lines after the last section. -/
def closing (p : Plan) : List (List Char) :=
  ["End / Thank You Page:".toList, "Message: \"".toList ++ p.message.chars ++ ['"']]

def lines (p : Plan) : List (List Char) := p.opening ++ p.parts.flatMap Part.lines ++ p.closing

/-- The plan, written down. -/
def prompt (p : Plan) : String := String.ofList (Text.join ['\n'] p.lines)

/-- The form that was planned. -/
def form (p : Plan) : Form where
  title := p.title.text
  description := some p.intro.text
  sections := p.parts.map Part.toSection
  settings := some { Settings.none with confirmationMessage := some p.message.text }
  extras := []

/-- No title or label ends in what an outline drops there. -/
structure Proper (p : Plan) : Prop where
  title : ∀ c, Text.AtEnd c p.title.chars → isQuoteMark c = false
  headings : ∀ part ∈ p.parts, part.title.chars.getLast? ≠ some ':'
  labels : ∀ q ∈ p.questions, q.label.chars.getLast? ≠ some ':'

end Plan

/-! ## Clear plans -/

/-- Does a label begin with the words `consent checkbox`? -/
def asksConsent (label : List Char) : Bool :=
  match Text.dropWord? "consent".toList label with
  | some rest =>
    rest.head?.any Text.isBlank &&
      (Text.dropWord? "checkbox".toList (Text.trimStart rest)).any (!Text.startsWithWord ·)
  | none => false

/-- Options that can be told from the signs around them. -/
structure Separable (options : List Phrase) : Prop where
  apart : ∀ o ∈ options, ',' ∉ o.chars
  bare : ∀ o ∈ options, ∀ c, Text.AtEnd c o.chars → isOptionPadding c = false
  whole : ∀ o, options = [o] → '/' ∉ o.chars

/-- A question whose line says what it should: the label is no request for consent, and the
attributes are free of parentheses and list the options. -/
structure Question.Clear (q : Question) : Prop where
  label : asksConsent q.label.chars = false
  enclosed : ∀ o ∈ q.options, '(' ∉ o.chars ∧ ')' ∉ o.chars
  separable : Separable q.options

/-- A question that brings no other with it. -/
def Question.Alone (q : Question) : Prop :=
  q.word = .checkboxes → ∀ o ∈ q.options, Builder.beginsWith "other" o.text = false

/-- A plan whose outline says what it should: every question is clear, alone and independent, the
message can be told from its quotes, and the form has every question that the outline mentions. -/
structure Plan.Clear (p : Plan) : Prop where
  clear : ∀ q ∈ p.questions, q.Clear
  alone : ∀ q ∈ p.questions, q.Alone
  independent : ∀ before q after, p.questions = before ++ q :: after →
    Builder.beginsWith "if yes" q.label.text = true → ∀ earlier ∈ before, earlier.word.offers = false
  message : ∀ c ∈ p.message.chars, isClosingQuote c = false
  bare : ∀ c, Text.AtEnd c p.message.chars → isOpeningQuote c = false
  complete : ∀ e ∈ Enrichment.all, containsText e.trigger (lowered p.prompt) = true →
    e.isIn p.form = true

end PromptForm.Outline
