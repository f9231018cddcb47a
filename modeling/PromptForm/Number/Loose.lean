import PromptForm.Number.Numeral

/-! # Loosely written numbers

Numbers that come as text where a number is needed. A text in plain form is read at once; any other
one is brought into plain form first, as far as that can be done: white space around it, a plus
sign, needless zeros and single underscores do not count. Only the ten basic digits are read.
-/

namespace PromptForm.Loose

def splitMinus : List Char → Bool × List Char
  | '-' :: rest => (true, rest)
  | cs => (false, cs)

/-- Read a whole number in plain form: a minus sign if need be, and digits that do not begin with a
needless zero. The sign counts among the digits. -/
def readPlain (cs : List Char) : Except NumeralError Int :=
  let (negative, body) := splitMinus cs
  let run := body.takeWhile Char.isDigit
  let length := run.length + if negative then 1 else 0
  if run.isEmpty then .error .malformed
  else if run.head? == some '0' && run != ['0'] then .error .malformed
  else if Numeral.maxDigits < length then .error (.tooLong length)
  else if run.length < body.length then .error .malformed
  else .ok (Numeral.signed negative (Text.digitsValue run))

/-- Drop the zeros at the front of a number, and the underscores among them. One zero stays when
nothing else is left before a point or the end. A minus sign may come after the zeros. -/
def dropZeros? : List Char → Option (List Char)
  | '0' :: rest =>
    let isNeedless (c : Char) : Bool := c == '0' || c == '_'
    let last := ('0' :: rest.takeWhile isNeedless).getLast?.toList
    match rest.dropWhile isNeedless with
    | [] => some last
    | '.' :: fraction => some (last ++ '.' :: fraction)
    | c :: digits => if c.isDigit || c == '-' then some (c :: digits) else none
  | c :: rest => if c.isDigit then some (c :: rest) else none
  | [] => none

/-- Drop a point with nothing but zeros after it. -/
def dropZeroFraction (cs : List Char) : List Char :=
  let fraction := (cs.dropWhile (· != '.')).drop 1
  if !fraction.isEmpty && fraction.all (· == '0') then cs.takeWhile (· != '.') else cs

/-- Are there two underscores side by side? -/
def hasDoubleUnderscore : List Char → Bool
  | '_' :: '_' :: _ => true
  | _ :: rest => hasDoubleUnderscore rest
  | [] => false

/-- Drop the underscores of a text, if each of them is a single one inside of it. -/
def dropUnderscores? (cs : List Char) : Option (List Char) :=
  if !cs.contains '_' || cs.head? == some '_' || cs.getLast? == some '_' ||
      hasDoubleUnderscore cs then none
  else some (cs.filter (· != '_'))

/-- The plain form of a whole number, if there is one. -/
def plainForm? (cs : List Char) : Option (List Char) :=
  let (negative, body) := Numeral.splitSign (Text.stripWhere Numeral.isPadding cs)
  (dropZeros? body).map fun body =>
    let body := dropZeroFraction body
    (if negative then ['-'] else []) ++ (dropUnderscores? body).getD body

def readInt (cs : List Char) : Except NumeralError Int :=
  match readPlain cs, plainForm? cs with
  | .error .malformed, some plain => readPlain plain
  | outcome, _ => outcome

def isDecimalChar (c : Char) : Bool := 32 < c.toNat && c.toNat < 127 && c != '_'

/-- Read a decimal number in plain form. -/
def readPlainDouble? (cs : List Char) : Option Double :=
  if cs.all isDecimalChar then Numeral.readDouble? cs else none

/-- Read a decimal number. One with underscores has no white space around it. -/
def readDouble? (cs : List Char) : Option Double :=
  readPlainDouble? (Text.stripWhere Numeral.isPadding cs) <|>
    (dropUnderscores? cs).bind readPlainDouble?

end PromptForm.Loose
