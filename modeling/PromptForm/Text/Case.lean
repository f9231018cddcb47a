import PromptForm.Text.Blank
import PromptForm.Text.CaseTable
import PromptForm.Text.Word

/-! # Letter case

Lowercase and uppercase of whole texts, in which a letter may become several, titles with every
word capitalised, and the comparison of a basic letter with a character regardless of case.
-/

namespace PromptForm.Text

/-- The lowercase of a character on its own. -/
def lowerChar (c : Char) : List Char :=
  if c.toNat < 128 then [c.toLower] else mapCase lowerRuns lowerExpansions c

def upperChar (c : Char) : List Char :=
  if c.toNat < 128 then [c.toUpper] else mapCase upperRuns upperExpansions c

def isCased (c : Char) : Bool :=
  if c.toNat < 128 then c.isAlpha else inRanges casedRanges c.toNat

/-- A character that is passed over when looking for a neighbouring cased letter. -/
def isCaseIgnorable (c : Char) : Bool :=
  if c.toNat < 128 then
    c == '\'' || c == '.' || c == ':' || c == '^' || c == '\x60'
  else inRanges caseIgnorableRanges c.toNat

/-- Is the next character that is not passed over a cased letter? -/
def casedNext (cs : List Char) : Bool :=
  match cs.dropWhile isCaseIgnorable with
  | [] => false
  | c :: _ => isCased c

/-- Lowercase a text that stands after the characters `before`, given back to front. A capital
sigma that ends a word has a lowercase of its own. -/
def lowerFrom (before : List Char) : List Char → List Char
  | [] => []
  | c :: rest =>
    (if c = 'Σ' then [if casedNext before && !casedNext rest then 'ς' else 'σ'] else lowerChar c)
      ++ lowerFrom (c :: before) rest

def lower (cs : List Char) : List Char := lowerFrom [] cs

def upper (cs : List Char) : List Char := cs.flatMap upperChar

/-- Capitalise the first character of each word; `inWord` says that a word is under way. -/
def titleCaseFrom (inWord : Bool) : List Char → List Char
  | [] => []
  | c :: rest =>
    (if isWord c && !inWord then upperChar c else [c]) ++ titleCaseFrom (isWord c) rest

/-- Capitalise the first character of each word. -/
def titleCase (cs : List Char) : List Char := titleCaseFrom false cs

/-- Is `c` the basic lowercase letter (or sign) `p` in some case? Four characters beyond the basic
ones count as case forms of basic letters: the long s, the dotted and dotless i and the Kelvin
sign. -/
def sameLetter (p c : Char) : Bool :=
  c == p || c.toLower == p || (p == 's' && c == 'ſ') || (p == 'k' && c == '\u212a') ||
    (p == 'i' && (c == '\u0130' || c == '\u0131'))

/-- What follows a word at the front of a text, the word's letters being matched in any case. -/
def dropWord? : List Char → List Char → Option (List Char)
  | [], cs => some cs
  | _ :: _, [] => none
  | p :: word, c :: cs => if sameLetter p c then dropWord? word cs else none

end PromptForm.Text

namespace PromptForm

def lowered (s : String) : String := onText Text.lower s

def uppered (s : String) : String := onText Text.upper s

end PromptForm
