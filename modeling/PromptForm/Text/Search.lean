import PromptForm.Text.Blank
import PromptForm.Text.Word

/-! # Searching a text

A search tries a recogniser at every place from left to right, with the character before the place
at hand. Searches for phrases at word boundaries are instances of it.
-/

namespace PromptForm.Text

/-- The answer of `here` at the first place where it has one. `here` is given the character before
the place and the text from the place on; the end of the text is a place too. -/
def firstMatch (here : Option Char → List Char → Option α) (before : Option Char) :
    List Char → Option α
  | [] => here before []
  | c :: rest =>
    match here before (c :: rest) with
    | some answer => some answer
    | none => firstMatch here (some c) rest

/-- What follows `needle` at the front of a text. -/
def dropPrefix? : List Char → List Char → Option (List Char)
  | [], cs => some cs
  | _ :: _, [] => none
  | n :: needle, c :: cs => if n = c then dropPrefix? needle cs else none

/-- The text before and after the first occurrence of `needle`. -/
def splitAtFirst? (needle : List Char) : List Char → Option (List Char × List Char)
  | [] => (dropPrefix? needle []).map fun rest => ([], rest)
  | c :: cs =>
    match dropPrefix? needle (c :: cs) with
    | some rest => some ([], rest)
    | none => (splitAtFirst? needle cs).map fun (front, rest) => (c :: front, rest)

/-- Does `needle` occur? -/
def contains (needle cs : List Char) : Bool := (splitAtFirst? needle cs).isSome

/-- Does `phrase`, which begins with a word character, occur where a word begins? -/
def hasPhraseStart (phrase cs : List Char) : Bool :=
  (firstMatch (fun before rest =>
    if atBoundary before rest then dropPrefix? phrase rest else none) none cs).isSome

/-- Does `phrase`, which begins and ends with word characters, occur as whole words? -/
def hasPhrase (phrase cs : List Char) : Bool :=
  (firstMatch (fun before rest =>
    if atBoundary before rest then
      (dropPrefix? phrase rest).filter fun after => !startsWithWord after
    else none) none cs).isSome

end PromptForm.Text

namespace PromptForm

/-- Does `needle` occur in `s`? -/
def containsText (needle s : String) : Bool := Text.contains needle.toList s.toList

end PromptForm
