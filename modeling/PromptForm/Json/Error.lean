/-! # Why a text is not JSON

A text that is not JSON is refused at the place where it stops making sense. Places are told by line
and column; both count from one, and only line feeds end lines.
-/

namespace PromptForm

/-- What is wrong at a place of a text that is not JSON. -/
inductive JsonFlaw where
  /-- The text begins with a byte order mark. -/
  | mark
  | noValue
  /-- An object has no key where one is needed. -/
  | noKey
  /-- There is no colon after a key. -/
  | noColon
  /-- There is neither a comma nor an end after an item. -/
  | noComma
  /-- A text that begins at the place does not end. -/
  | openText
  /-- A text has a control character that is not escaped. -/
  | control
  | badEscape
  /-- An escape has no four digits. -/
  | badUnit
  /-- There is more after the value. -/
  | surplus
  deriving DecidableEq, Repr

def JsonFlaw.message : JsonFlaw → String
  | mark => "Unexpected UTF-8 BOM (decode using utf-8-sig)"
  | noValue => "Expecting value"
  | noKey => "Expecting property name enclosed in double quotes"
  | noColon => "Expecting ':' delimiter"
  | noComma => "Expecting ',' delimiter"
  | openText => "Unterminated string starting at"
  | control => "Invalid control character at"
  | badEscape => "Invalid \\escape"
  | badUnit => "Invalid \\uXXXX escape"
  | surplus => "Extra data"

/-- The values that hold others. -/
inductive Container where
  | list
  | object
  deriving DecidableEq, Repr

def Container.title : Container → String
  | list => "array"
  | object => "object"

/-- A container stands inside of so many others that it is not read. -/
structure TooNested where
  container : Container
  deriving DecidableEq, Repr

def TooNested.message (e : TooNested) : String :=
  "maximum recursion depth exceeded while decoding a JSON " ++ e.container.title ++
    " from a unicode string"

/-- Why a text is not read as JSON. -/
inductive JsonError where
  /-- It is not JSON from the character at `position` on. -/
  | malformed (flaw : JsonFlaw) (position : Nat)
  /-- It holds a whole number of too many digits. -/
  | tooLong (digits : Nat)
  /-- It holds a container inside of too many others. -/
  | tooNested (e : TooNested)
  deriving DecidableEq, Repr

def JsonFlaw.messageAt (flaw : JsonFlaw) (text : List Char) (position : Nat) : String :=
  let before := text.take position
  let column := (before.reverse.takeWhile (· != '\n')).length + 1
  flaw.message ++ ": line " ++ toString (before.count '\n' + 1) ++ " column " ++ toString column ++
    " (char " ++ toString position ++ ")"

end PromptForm
