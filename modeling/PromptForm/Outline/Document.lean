import PromptForm.Enrichment
import PromptForm.Outline.Builder
import PromptForm.Title

/-! # Outlines

A prompt may describe a form in lines: a title and an introduction, headed sections with a field a
line, and a closing message. A prompt without sections may still ask for a stock form.
-/

namespace PromptForm.Outline

/-- What follows a colon, perhaps after white space, without white space at its ends. -/
def afterColon? (cs : List Char) : Option (List Char) :=
  (Text.dropPrefix? [':'] (Text.trimStart cs)).map Text.trim

/-- What follows a word, in any case, after white space. -/
def dropNext? (word : String) (cs : List Char) : Option (List Char) :=
  Text.dropWord? word.toList (Text.trimStart cs)

/-- The title of a line such as `Form title: Signup`. -/
def titleLine? (cs : List Char) : Option (List Char) := do
  let start := Text.trimStart cs
  let body :=
    match Text.dropWord? "form".toList start with
    | some (c :: rest) => if Text.isBlank c then Text.trimStart rest else start
    | _ => start
  let title ← Text.dropWord? "title".toList body >>= afterColon?
  if title.isEmpty then none else some title

/-- What follows a slash and words, or the text itself. -/
def dropSlashed (drop? : List Char → Option (List Char)) (cs : List Char) : List Char :=
  ((Text.dropPrefix? ['/'] (Text.trimStart cs)).bind drop?).getD cs

/-- The introduction of a line such as `Intro: Welcome!`. -/
def introLine? (cs : List Char) : Option (List Char) :=
  match dropNext? "intro" cs with
  | some rest =>
    let rest := (Text.dropWord? "duction".toList rest).getD rest
    afterColon? (dropSlashed (dropNext? "description") rest)
  | none => dropNext? "description" cs >>= afterColon?

/-- What follows a number with a point or a parenthesis and white space, or the text itself. -/
def dropNumber (cs : List Char) : List Char :=
  match cs.dropWhile Text.isDigit with
  | mark :: rest =>
    if (cs.head?.any Text.isDigit) && (mark == '.' || mark == ')') then Text.trimStart rest else cs
  | [] => cs

/-- The title of a line such as `## 1. Section 2: About you`. -/
def sectionLine? (cs : List Char) : Option (List Char) := do
  let marked := Text.trimStart ((Text.trimStart cs).dropWhile (· == '#'))
  let rest ← Text.dropWord? "section".toList (dropNumber marked)
  let numbered := (Text.trimStart rest).dropWhile Text.isDigit
  match Text.trimStart numbered with
  | mark :: after =>
    guard (mark == ':' || mark == '.' || mark == '-' || mark == '–')
    let title := Text.trim after
    if title.isEmpty then none else some title
  | [] => none

/-- What follows the words `thank you`, perhaps with `page`. -/
def dropThanks? (cs : List Char) : Option (List Char) := do
  let rest ← dropNext? "thank" cs
  let rest ← Text.dropWord? "you".toList (rest.dropWhile fun c => Text.isBlank c || c == '-')
  return (dropNext? "page" rest).getD rest

/-- The text of a line such as `End / Thank you page: Bye!`. -/
def trailerLine? (cs : List Char) : Option (List Char) :=
  match dropNext? "end" cs with
  | some rest => afterColon? (dropSlashed dropThanks? rest)
  | none => dropThanks? cs >>= afterColon?

def isOpeningQuote (c : Char) : Bool := c == '"' || c == '“'

def isClosingQuote (c : Char) : Bool := c == '"' || c == '”'

/-- The text of at least one character up to a closing quote on the same line. -/
def quotedMessage? : List Char → Option (List Char)
  | mark :: c :: rest =>
    let inner := rest.takeWhile fun c => c != '\n' && !isClosingQuote c
    if isOpeningQuote mark && c != '\n' && (rest.drop inner.length).head?.any isClosingQuote then
      some (c :: inner)
    else none
  | _ => none

/-- The message after the word `message` and a colon: in quotes, or the rest of the line. -/
def messageHere? (cs : List Char) : Option (List Char) := do
  let rest ← Text.dropWord? "message".toList cs
  let rest ← Text.dropPrefix? [':'] (Text.trimStart rest)
  let body := Text.trimStart rest
  match quotedMessage? body with
  | some message => return message
  | none =>
    let line := body.takeWhile (· != '\n')
    if line.isEmpty then none else some line

/-- The closing message of the lines at the end of an outline. -/
def trailerMessage? (lines : List (List Char)) : Option String := do
  let message ← Text.firstMatch (fun _ cs => messageHere? cs) none (Text.join ['\n'] lines)
  nonEmpty? (String.ofList
    (Text.stripWhere (fun c => isOpeningQuote c || isClosingQuote c) (Text.trim message)))

/-- The part of an outline that a line belongs to. -/
inductive Place where
  | preamble
  | intro
  | inSection
  | trailer
  deriving DecidableEq, Repr

/-- An outline under way. -/
structure Document where
  title : Option String
  intro : List (List Char)
  trailer : List (List Char)
  builder : Builder
  place : Place
  deriving Repr

namespace Document

def empty : Document := ⟨none, [], [], Builder.empty, .preamble⟩

/-- Add a line before the first section. -/
def addPreamble (d : Document) (line : List Char) : Document :=
  match titleLine? line with
  | some title =>
    { d with title := some (String.ofList (Text.stripWhere isQuoteMark title)) }
  | none =>
    match introLine? line with
    | some text =>
      { d with place := .intro, intro := if text.isEmpty then d.intro else d.intro ++ [text] }
    | none => if d.place = .intro then { d with intro := d.intro ++ [line] } else d

/-- Add a trimmed line that is not empty. -/
def addLine (d : Document) (line : List Char) : Except Failure Document :=
  match sectionLine? line with
  | some title =>
    let title := String.ofList (Text.dropEndWhile (· == ':') title)
    .ok { d with builder := d.builder.openSection title, place := .inSection }
  | none =>
    match trailerLine? line with
    | some text =>
      .ok { d with
        place := .trailer
        trailer := if text.isEmpty then d.trailer else d.trailer ++ [text] }
    | none =>
      match d.place with
      | .trailer => .ok { d with trailer := d.trailer ++ [line] }
      | .preamble | .intro => .ok (d.addPreamble line)
      | .inSection => (d.builder.addLine line).map fun builder => { d with builder := builder }

def addLines (d : Document) : List (List Char) → Except Failure Document
  | [] => .ok d
  | line :: rest => do
    let d ← d.addLine line
    d.addLines rest

def parse (prompt : String) : Except Failure Document :=
  let lines := (Text.splitLines prompt.toList).map Text.trim
  empty.addLines (lines.filter (!·.isEmpty))

/-- The sections with fields. -/
def sections (d : Document) : List Section :=
  (d.builder.sections.filter (!·.fields.isEmpty)).map fun draft =>
    { title := draft.title
      description := nonEmpty? (" ".intercalate draft.description)
      fields := draft.fields
      extras := [] }

/-- The form that a document describes, for the prompt that it was read from. -/
def form? (d : Document) (prompt : String) : Option Form :=
  match d.sections with
  | [] => (Template.match? prompt).map fun form => form.enrich prompt
  | sections =>
    let form : Form := {
      title := (d.title.bind nonEmpty?).getD (Title.ofPrompt prompt)
      description := trimmed? (String.ofList (Text.join [' '] d.intro))
      sections := sections
      settings := (trailerMessage? d.trailer).map fun message =>
        { Settings.none with confirmationMessage := some message }
      extras := [] }
    some (form.enrich prompt)

end Document

/-- The form that a prompt describes in lines, or the stock form that it asks for. -/
def formOfPrompt? (prompt : String) : Except Failure (Option Form) :=
  (Document.parse prompt).map fun d => d.form? prompt

end PromptForm.Outline
