import PromptForm.Condition.Rule
import PromptForm.Failure
import PromptForm.Text.Case
import PromptForm.Text.Search

/-! # Condition expressions

A condition is written as a reference to a field, an operator and a value, such as `rating <= 3` or
`Will you come? equals Yes`. The text is split at the first operator from the left; a negated
operator makes the whole expression unusable.
-/

namespace PromptForm

/-- A condition as it is written. -/
structure Expression where
  reference : String
  operator : Operator
  value : Scalar
  deriving DecidableEq, Repr

namespace Expression

/-- The signs of operators. A sign comes before those that it begins with. -/
def signs : List (List Char × Operator) := [
  (['<', '='], .lessOrEqual), (['>', '='], .greaterOrEqual), (['=', '='], .equal),
  (['≤'], .lessOrEqual), (['≥'], .greaterOrEqual), (['<'], .lessThan), (['>'], .greaterThan),
  (['='], .equal)]

def equalsWord : List Char := "equals".toList

/-- The negated signs, for which there is no operator. -/
def negatedSigns : List (List Char) := [['!', '='], ['<', '>'], ['=', '!']]

def isQuote (c : Char) : Bool := c == '"' || c == '\''

/-- A value without white space and quotes around it. -/
def bareValue (raw : List Char) : List Char := Text.trim (Text.stripWhere isQuote (Text.trim raw))

/-- The value that a text stands for: a whole number, a number, or a text. -/
def valueOf (raw : List Char) : Except Failure Scalar :=
  let t := bareValue raw
  let (negative, body) := Numeral.splitSign t
  if !body.isEmpty && body.all Text.isDigit then
    match Numeral.readDigits body with
    | .ok n => .ok (.number (.int (Numeral.signed negative n)))
    | .error e => .error (Failure.ofNumeral t e)
  else
    match Numeral.readDecimal? negative body with
    | some x => .ok (.number (.double x))
    | none => .ok (.text (String.ofList t))

/-- The expression with an operator between two texts, unless one of them is empty. -/
def between? (front : List Char) (operator : Operator) (after : List Char) :
    Except Failure (Option Expression) :=
  let reference := Text.trim front
  if reference.isEmpty || (Text.trim after).isEmpty then .ok none
  else
    match valueOf after with
    | .error e => .error e
    | .ok (.text "") => .ok none
    | .ok value => .ok (some ⟨String.ofList reference, operator, value⟩)

/-- Does the word `equals` stand at the front of `lowered`, with white space or an end on both
sides? -/
def equalsAt (before : Option Char) (lowered : List Char) : Bool :=
  match Text.dropPrefix? equalsWord lowered with
  | some after => before.all Text.isBlank && after.head?.all Text.isBlank
  | none => false

/-- What follows the operator sign at the front of a text. -/
def signAt? (cs : List Char) : Option (Operator × List Char) :=
  signs.findSome? fun (sign, operator) =>
    (Text.dropPrefix? sign cs).map fun after => (operator, after)

/-- Look for the first operator. `front` holds the characters passed, back to front; `lowered` is
the rest of the lowercased text from the same position on, and `before` the character before
it. -/
def scan (front : List Char) (before : Option Char) (lowered : List Char) :
    List Char → Except Failure (Option Expression)
  | [] => .ok none
  | c :: rest =>
    if equalsAt before lowered then
      between? front.reverse .equal ((c :: rest).drop equalsWord.length)
    else if negatedSigns.any fun sign => sign.isPrefixOf (c :: rest) then .ok none
    else
      match signAt? (c :: rest) with
      | some (operator, after) => between? front.reverse operator after
      | none => scan (c :: front) lowered.head? lowered.tail rest

def parse? (expr : List Char) : Except Failure (Option Expression) :=
  let t := Text.trim expr
  scan [] none (Text.lower t) t

end Expression

end PromptForm
