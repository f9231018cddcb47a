import PromptForm.Text.Case
import PromptForm.Text.Search

/-! # Titles from prompts

A prompt that asks to create some form says what the form is about between `create` and `form`.
Otherwise the first quoted text serves as a title.
-/

namespace PromptForm.Title

def default : String := "Custom Form"

/-- The words that may stand before the subject of a form, besides an article. -/
def qualifiers : List String := [
  "simple", "contact", "survey", "registration", "feedback", "application"]

/-- What follows a word and the white space after it, of which there is some. -/
def dropWordAndBlanks? (word : String) (cs : List Char) : Option (List Char) :=
  match Text.dropWord? word.toList cs with
  | some (c :: rest) => if Text.isBlank c then some (Text.trimStart rest) else none
  | _ => none

def dropArticle (cs : List Char) : List Char :=
  (dropWordAndBlanks? "an" cs <|> dropWordAndBlanks? "a" cs).getD cs

/-- What follows an article and qualifiers, each of which may be missing. -/
def dropQualifiers (cs : List Char) : List Char :=
  qualifiers.foldl (fun cs word => (dropWordAndBlanks? word cs).getD cs) (dropArticle cs)

/-- Does the word `form` come next, perhaps after white space? -/
def formNext (before : Option Char) (cs : List Char) : Bool :=
  let rest := Text.trimStart cs
  match Text.dropWord? "form".toList rest with
  | some after =>
    (cs.head?.any Text.isBlank || !before.any Text.isWord) && !Text.startsWithWord after
  | none => false

/-- The text up to the word `form` on the same line. -/
def upToForm? (before : Option Char) : List Char → Option (List Char)
  | [] => none
  | c :: rest =>
    if formNext before (c :: rest) then some []
    else if c == '\n' then none
    else (upToForm? (some c) rest).map (c :: ·)

/-- The qualifiers and the subject after the word `create`. -/
def request? (before : Option Char) (cs : List Char) : Option (List Char × List Char) := do
  guard (Text.atBoundary before cs)
  let rest ← dropWordAndBlanks? "create" cs
  let after := dropQualifiers rest
  let subject ← upToForm? (some ' ') after
  return (rest.take (rest.length - after.length), subject)

def quoted? : List Char → Option (List Char)
  | [] => none
  | c :: rest =>
    if c == '"' then
      let inner := rest.takeWhile (· != '"')
      if inner.isEmpty || !(rest.contains '"') then quoted? rest else some inner
    else quoted? rest

/-- The first quoted text, unless it is blank. -/
def ofQuote? (cs : List Char) : Option String :=
  (quoted? cs).bind fun inner => trimmed? (String.ofList inner)

/-- The title that a request to create a form gives: its subject, else its qualifiers. -/
def ofRequest? (cs : List Char) : Option String := do
  let (qualified, subject) ← Text.firstMatch request? none cs
  match Text.trim subject with
  | [] =>
    let words := Text.trim (dropArticle (Text.trim qualified))
    if words.isEmpty then none
    else some (String.ofList (Text.titleCase (words ++ " form".toList)))
  | subject => some (String.ofList (Text.titleCase subject))

/-- The title that a prompt gives its form. -/
def ofPrompt (prompt : String) : String :=
  (ofRequest? prompt.toList <|> ofQuote? prompt.toList).getD default

end PromptForm.Title
