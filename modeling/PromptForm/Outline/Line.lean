import PromptForm.Field.Basic
import PromptForm.Outline.Attributes
import PromptForm.Text.Case

/-! # Lines of an outline

A field is a line with a number or a bullet in front, with attributes in parentheses at the end, or
with both: `2. Email (email, required)`. A bare line is a field only if it mentions one of a few
questions that everybody asks in the same way.
-/

namespace PromptForm.Outline

/-- What remains of a text after dropping white space from its front, as much of it as possible
first. -/
def afterBlanks : List Char → List (List Char)
  | [] => [[]]
  | c :: rest => if Text.isBlank c then afterBlanks rest ++ [c :: rest] else [c :: rest]

/-- What follows a number with a point or a parenthesis, or a bullet. -/
def dropBullet? (cs : List Char) : Option (List Char) :=
  match cs with
  | [] => none
  | c :: rest =>
    if c == '-' || c == '*' || c == '•' then some rest
    else if Text.isDigit c then
      match cs.dropWhile Text.isDigit with
      | mark :: rest => if mark == '.' || mark == ')' then some rest else none
      | [] => none
    else none

/-- Is there nothing left but white space and perhaps one colon or point? -/
def isEnding (cs : List Char) : Bool :=
  match Text.trimStart cs with
  | [] => true
  | c :: rest => (c == ':' || c == '.') && (Text.trimStart rest).isEmpty

/-- The attributes, if any, of a text that consists of attributes and an ending. -/
def tail? (cs : List Char) : Option (Option (List Char)) :=
  match Text.trimStart cs with
  | '(' :: rest =>
    match rest.dropWhile fun c => c != '(' && c != ')' with
    | ')' :: after =>
      if isEnding after then some (some (rest.takeWhile fun c => c != '(' && c != ')')) else none
    | _ => none
  | rest => if isEnding rest then some none else none

/-- The shortest label, of at least one character and on one line, that is followed by attributes
and an ending only. `taken` holds the characters before, back to front. -/
def labelFrom? (taken : List Char) : List Char → Option (List Char × Option (List Char))
  | [] => none
  | c :: rest =>
    if c == '\n' then none
    else
      match tail? rest with
      | some attributes => some ((c :: taken).reverse, attributes)
      | none => labelFrom? (c :: taken) rest

/-- The parts of a line. -/
structure LineParts where
  /-- Is there a number or a bullet in front? -/
  bulleted : Bool
  label : List Char
  attributes : Option (List Char)
  deriving DecidableEq, Repr

/-- The places where the label may begin, the preferred one first. -/
def labelStarts (cs : List Char) : List (Bool × List Char) :=
  (afterBlanks cs).flatMap fun start =>
    (((dropBullet? start).map afterBlanks).getD []).map (true, ·) ++ [(false, start)]

def lineParts? (cs : List Char) : Option LineParts :=
  (labelStarts cs).findSome? fun (bulleted, start) =>
    (labelFrom? [] start).map fun (label, attributes) => ⟨bulleted, label, attributes⟩

def isQuoteMark (c : Char) : Bool := c == '"' || c == '\''

def consentStatement : String := "I agree to the terms and conditions"

/-- A field that asks to agree to a statement. -/
def consentField (statement : List Char) : Field :=
  let bare := Text.stripWhere isQuoteMark (Text.trim statement)
  { Field.plain .consentCheckbox "Consent" with
    required := true
    options := [.text (if bare.isEmpty then consentStatement else String.ofList bare)]
    given := [.type, .label, .required, .options] }

/-- What follows parentheses at the front of a text, if there are any. -/
def dropParenthesis (cs : List Char) : List Char :=
  match cs with
  | '(' :: rest =>
    match rest.dropWhile (· != ')') with
    | _ :: after => after
    | [] => cs
  | _ => cs

/-- The statement of a line that starts with the words `consent checkbox`. -/
def consentLine? (cs : List Char) : Option (List Char) := do
  let start := Text.trimStart cs
  let body := ((dropBullet? start).map Text.trimStart).getD start
  let rest ← Text.dropWord? "consent".toList body
  guard (rest.head?.any Text.isBlank)
  let rest ← Text.dropWord? "checkbox".toList (Text.trimStart rest)
  guard (!Text.startsWithWord rest)
  let rest := Text.trimStart (dropParenthesis (Text.trimStart rest))
  let statement :=
    match rest with
    | c :: after => if c == ':' || c == '-' || c == '–' then Text.trim after else Text.trim rest
    | [] => []
  guard (!statement.contains '\n')
  return statement

def contactMethods : List String := ["Email", "Phone", "Text message"]

def timesOfDay : List String := ["Morning", "Afternoon", "Evening"]

/-- The question that a label mentions, if everybody asks it in the same way. -/
def commonQuestion? (label : String) : Option Field :=
  let lower := lowered label
  if containsText "preferred method" lower || containsText "preferred contact method" lower then
    some { Field.plain .multipleChoice label with
      options := contactMethods.map .text
      given := [.type, .label, .options] }
  else if containsText "time of day" lower then
    some { Field.plain .dropdown label with
      placeholder := some "Select a time"
      options := timesOfDay.map .text
      given := [.type, .label, .placeholder, .options] }
  else none

/-- The kind of a field without one, judged by its label. -/
def kindOfLabel (label : String) : Kind :=
  let lower := lowered label
  if containsText "email" lower then .email
  else if containsText "phone" lower then .phone
  else if containsText "date" lower then .date
  else .text

/-- The field of a kind that a label and attributes describe. -/
def fieldOf (kind : Kind) (label : String) (a : Attributes) : Field :=
  let base := { Field.plain kind label with
    required := a.required
    given := [.type, .label, .required] }
  match kind with
  | .consentCheckbox =>
    { base with
      required := true
      options := if a.options.isEmpty then [.text label] else a.options.map .text
      given := base.given ++ [.options] }
  | .dropdown | .multipleChoice | .checkboxes | .countrySelect =>
    { base with
      options :=
        if a.options.isEmpty then ((commonQuestion? label).map Field.options).getD []
        else a.options.map .text
      given := base.given ++ [.options] }
  | .rating =>
    match a.high.filter (· ≠ 0) with
    | some high =>
      { base with maxRating := some (.int high), given := base.given ++ [.maxRating] }
    | none => base
  | .linearScale | .nps | .likert =>
    match a.high with
    | some high =>
      { base with
        minValue := a.low.map .int
        maxValue := some (.int high)
        given := base.given ++ [.minValue, .maxValue] }
    | none => base
  | _ => base

/-- A common question, required or not as a line says. -/
def commonField (question : Field) (required : Bool) : Field :=
  { question with required := required, given := question.given ++ [.required] }

/-- The field that a line with a label describes. -/
def fieldOfParts (parts : LineParts) : Except Failure (Option Field) := do
  let label := String.ofList
    (Text.trim (Text.dropEndWhile (· == ':') (Text.trim parts.label)))
  if label.isEmpty then return none
  if !parts.bulleted && parts.attributes.isNone then return commonQuestion? label
  let attributes ←
    match parts.attributes with
    | some cs => Attributes.parse cs
    | none => pure Attributes.none
  match attributes.kind, commonQuestion? label with
  | some kind, _ => return some (fieldOf kind label attributes)
  | none, some question => return some (commonField question attributes.required)
  | none, none => return some (fieldOf (kindOfLabel label) label attributes)

/-- The field that a line describes, if it describes one. -/
def fieldOfLine (cs : List Char) : Except Failure (Option Field) :=
  match consentLine? cs with
  | some statement => .ok (some (consentField statement))
  | none =>
    match lineParts? cs with
    | some parts => fieldOfParts parts
    | none => .ok none

end PromptForm.Outline
