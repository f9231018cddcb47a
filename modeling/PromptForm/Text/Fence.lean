import PromptForm.Json.Reader
import PromptForm.Text.Case
import PromptForm.Text.Search

/-! # Code fences and JSON inside prose

Models wrap JSON in code fences and prose. A fence is three backquotes, the opening one perhaps
with the word `json`.
-/

namespace PromptForm.Text

def fence : List Char := ['\x60', '\x60', '\x60']

/-- What follows an opening fence, with its word and the white space after it. -/
def dropFence? (cs : List Char) : Option (List Char) :=
  (dropPrefix? fence cs).map fun rest => trimStart ((dropWord? "json".toList rest).getD rest)

/-- A text without a closing fence and the white space before it. -/
def dropClosingFence (cs : List Char) : List Char :=
  match dropPrefix? fence cs.reverse with
  | some rest => (rest.dropWhile isBlank).reverse
  | none => cs

/-- A text without white space and fences around it. -/
def stripFences (cs : List Char) : List Char :=
  let t := trim cs
  trim (dropClosingFence ((dropFence? t).getD t))

def fenced? (cs : List Char) : Option (List Char) := do
  let rest ← dropFence? (trim cs)
  let (inner, _) ← splitAtFirst? fence rest
  return trim inner

/-- The text from the first opening to the last closing brace. -/
def braced? (cs : List Char) : Option (List Char) :=
  match dropEndWhile (· != '\x7d') (cs.dropWhile (· != '\x7b')) with
  | [] => none
  | span => some span

/-- A text of at most `limit` characters; a longer one is cut and ends in three points. A limit
below three cuts that many characters less than three from the end. -/
def abbreviate (limit : Int) (cs : List Char) : List Char :=
  if cs.length ≤ limit then cs
  else if 3 ≤ limit then cs.take (limit - 3).toNat ++ ['.', '.', '.']
  else cs.take (cs.length - (3 - limit).toNat) ++ ['.', '.', '.']

end PromptForm.Text

namespace PromptForm

/-- The JSON value in a text, unless it is null. -/
def Json.readSome? (cs : List Char) : Except TooNested (Option Json) := do
  return (← Json.read? cs).filter fun v => !v.isNull

/-- The JSON value in a text, which may have fences around it or stand inside prose. -/
def Json.within? (cs : List Char) : Except TooNested (Option Json) := do
  let t := Text.stripFences cs
  match ← Json.readSome? t, Text.braced? t with
  | none, some span => Json.readSome? span
  | found, _ => return found

end PromptForm
