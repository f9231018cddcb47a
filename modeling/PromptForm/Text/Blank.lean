/-! # White space, trimming and lines

White space is every space, line end and separator control. Trimming removes characters of a class
from the ends of a text and leaves the inside alone.
-/

namespace PromptForm.Text

/-- White space of every script, with the four separator controls. -/
def isBlank (c : Char) : Bool :=
  let n := c.toNat
  (9 ≤ n && n ≤ 13) || (28 ≤ n && n ≤ 32) || n == 0x85 || n == 0xa0 || n == 0x1680 ||
    (0x2000 ≤ n && n ≤ 0x200a) || n == 0x2028 || n == 0x2029 || n == 0x202f || n == 0x205f ||
    n == 0x3000

/-- Drop the longest ending whose characters all satisfy `p`. -/
def dropEndWhile (p : Char → Bool) (cs : List Char) : List Char :=
  (cs.reverse.dropWhile p).reverse

/-- Drop the characters of a class from both ends. -/
def stripWhere (p : Char → Bool) (cs : List Char) : List Char :=
  dropEndWhile p (cs.dropWhile p)

def trimStart (cs : List Char) : List Char := cs.dropWhile isBlank

def trimEnd (cs : List Char) : List Char := dropEndWhile isBlank cs

def trim (cs : List Char) : List Char := stripWhere isBlank cs

/-- Replace every run of white space by one space. `inRun` says that a run's space is out. -/
def collapseFrom (inRun : Bool) : List Char → List Char
  | [] => []
  | c :: rest =>
    if isBlank c then
      if inRun then collapseFrom true rest else ' ' :: collapseFrom true rest
    else c :: collapseFrom false rest

/-- Replace every run of white space by one space. -/
def collapseBlanks (cs : List Char) : List Char := collapseFrom false cs

/-- The characters that end a line. -/
def isLineEnd (c : Char) : Bool :=
  let n := c.toNat
  (10 ≤ n && n ≤ 13) || (28 ≤ n && n ≤ 30) || n == 0x85 || n == 0x2028 || n == 0x2029

/-- The lines of a text whose first line begins with `line`, given back to front. A carriage
return and a line feed after it are one line end, and nothing follows the last line end. -/
def splitLinesFrom (line : List Char) : List Char → List (List Char)
  | [] => if line.isEmpty then [] else [line.reverse]
  | '\r' :: '\n' :: rest => line.reverse :: splitLinesFrom [] rest
  | c :: rest =>
    if isLineEnd c then line.reverse :: splitLinesFrom [] rest
    else splitLinesFrom (c :: line) rest

def splitLines (cs : List Char) : List (List Char) := splitLinesFrom [] cs

/-- The parts of a text between the occurrences of `separator`; there is always at least one. -/
def splitOn (separator : Char) : List Char → List (List Char)
  | [] => [[]]
  | c :: rest =>
    if c = separator then [] :: splitOn separator rest
    else
      match splitOn separator rest with
      | [] => [[c]]
      | part :: parts => (c :: part) :: parts

def join (separator : List Char) (parts : List (List Char)) : List Char :=
  List.intercalate separator parts

end PromptForm.Text

namespace PromptForm

/-- Apply an operation on characters to a text. -/
def onText (f : List Char → List Char) (s : String) : String := String.ofList (f s.toList)

def trimmed (s : String) : String := onText Text.trim s

def isBlankText (s : String) : Bool := s.toList.all Text.isBlank

/-- The text itself, unless it is empty. -/
def nonEmpty? (s : String) : Option String := if s.isEmpty then none else some s

/-- The trimmed text, unless there is nothing but white space. -/
def trimmed? (s : String) : Option String := nonEmpty? (trimmed s)

end PromptForm
