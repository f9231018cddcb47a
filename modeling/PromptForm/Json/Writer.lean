import PromptForm.Json.Basic
import PromptForm.Number.Shortest
import PromptForm.Text.Quote

/-! # Writing JSON text

JSON text, either indented or without white space. Only the quote, the backslash and control
characters are escaped.
-/

namespace PromptForm

namespace Json

def escapeChar (c : Char) : List Char :=
  if c == '"' || c == '\\' then ['\\', c]
  else if c == '\n' then ['\\', 'n']
  else if c == '\r' then ['\\', 'r']
  else if c == '\t' then ['\\', 't']
  else if c == '\x08' then ['\\', 'b']
  else if c == '\x0c' then ['\\', 'f']
  else if c.toNat < 32 then '\\' :: 'u' :: Text.hexDigits 4 c.toNat
  else [c]

def writeText (s : String) : List Char := '"' :: s.toList.flatMap escapeChar ++ ['"']

/-- A floating-point number, the special ones as words. -/
def writeDouble : Double → List Char
  | .nan => "NaN".toList
  | .infinite negative => (if negative then "-Infinity" else "Infinity").toList
  | x => x.text

/-- How values are laid out. -/
structure Layout where
  /-- What stands between the brackets and the parts of a list or object on a level. -/
  gap : Nat → List Char
  /-- What stands between a key and its value. -/
  colon : List Char

/-- One member or item a line, with two blanks of indentation a level. -/
def indented : Layout := ⟨fun level => '\n' :: List.replicate (2 * level) ' ', [':', ' ']⟩

def dense : Layout := ⟨fun _ => [], [':']⟩

mutual

/-- The text of a value on a level. -/
def write (l : Layout) (level : Nat) : Json → List Char
  | null => "null".toList
  | bool b => (if b then "true" else "false").toList
  | int n => intText n
  | double x => writeDouble x
  | text s => writeText s
  | array [] => ['[', ']']
  | array items =>
    '[' :: l.gap (level + 1) ++ writeItems l (level + 1) items ++ l.gap level ++ [']']
  | object [] => ['\x7b', '\x7d']
  | object entries =>
    '\x7b' :: l.gap (level + 1) ++ writeEntries l (level + 1) entries ++ l.gap level ++ ['\x7d']

def writeItems (l : Layout) (level : Nat) : List Json → List Char
  | [] => []
  | [v] => write l level v
  | v :: rest => write l level v ++ ',' :: l.gap level ++ writeItems l level rest

def writeEntries (l : Layout) (level : Nat) : List (String × Json) → List Char
  | [] => []
  | [(key, v)] => writeText key ++ l.colon ++ write l level v
  | (key, v) :: rest =>
    writeText key ++ l.colon ++ write l level v ++ ',' :: l.gap level ++
      writeEntries l level rest

end

def pretty (v : Json) : String := String.ofList (write indented 0 v)

def compact (v : Json) : String := String.ofList (write dense 0 v)

end Json

end PromptForm
