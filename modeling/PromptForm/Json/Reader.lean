import PromptForm.Json.Basic
import PromptForm.Json.Error
import PromptForm.Number.Numeral

/-! # Reading JSON text

A reader of JSON text that also accepts `NaN`, `Infinity` and `-Infinity`. Numbers with a fraction
or an exponent are floating-point, the others whole numbers of up to 4300 digits. Of members with
the same key the last one counts. Lists and objects are read up to a greatest number of levels.
-/

namespace PromptForm

namespace Json

def isSpace (c : Char) : Bool := c == ' ' || c == '\t' || c == '\n' || c == '\r'

def skipSpace (cs : List Char) : List Char := cs.dropWhile isSpace

/-- The most levels of lists and objects that are read. -/
def maxLevels : Nat := 991

/-- Refuse a text at `rest`. While a text is being read, the position of an error is given by the
number of characters from it to the end. -/
def refuse {α : Type} (flaw : JsonFlaw) (rest : List Char) : Except JsonError α :=
  .error (.malformed flaw rest.length)

def hexValue? (c : Char) : Option Nat :=
  if c.isDigit then some (c.toNat - '0'.toNat)
  else if 'a' ≤ c && c ≤ 'f' then some (c.toNat - 'a'.toNat + 10)
  else if 'A' ≤ c && c ≤ 'F' then some (c.toNat - 'A'.toNat + 10)
  else none

def hexValues? (a b c d : Char) : Option Nat := do
  return (((← hexValue? a) * 16 + (← hexValue? b)) * 16 + (← hexValue? c)) * 16 + (← hexValue? d)

/-- The character that a one-letter escape stands for. -/
def escaped? : Char → Option Char
  | '"' => some '"'
  | '\\' => some '\\'
  | '/' => some '/'
  | 'b' => some '\x08'
  | 'f' => some '\x0c'
  | 'n' => some '\n'
  | 'r' => some '\r'
  | 't' => some '\t'
  | _ => none

/-- The first half of a surrogate pair that has no second half shows as a replacement sign. -/
def flushHigh (high : Option Nat) (done : List Char) : List Char :=
  if high.isSome then '\ufffd' :: done else done

/-- Put a code unit after the characters `done`, given back to front: halves of a surrogate pair
wait for each other. -/
def addUnit (high : Option Nat) (unit : Nat) (done : List Char) : Option Nat × List Char :=
  if 0xd800 ≤ unit && unit < 0xdc00 then (some unit, flushHigh high done)
  else if 0xdc00 ≤ unit && unit < 0xe000 then
    match high with
    | some first =>
      (none, Char.ofNat (0x10000 + (first - 0xd800) * 0x400 + (unit - 0xdc00)) :: done)
    | none => (none, '\ufffd' :: done)
  else (none, Char.ofNat unit :: flushHigh high done)

/-- Read the rest of a text up to its closing quote. `opening` counts the characters from the
opening quote on, `done` holds the characters read, back to front. -/
def readChars (opening : Nat) (high : Option Nat) (done : List Char) :
    List Char → Except JsonError (List Char × List Char)
  | [] => .error (.malformed .openText opening)
  | '"' :: rest => .ok ((flushHigh high done).reverse, rest)
  | ['\\'] => .error (.malformed .openText opening)
  | '\\' :: 'u' :: a :: b :: c :: d :: rest =>
    match hexValues? a b c d with
    | some unit =>
      if rest.isEmpty then refuse .badUnit ('u' :: a :: b :: c :: d :: rest)
      else
        let (high, done) := addUnit high unit done
        readChars opening high done rest
    | none => refuse .badUnit ('u' :: a :: b :: c :: d :: rest)
  | '\\' :: e :: rest =>
    match escaped? e with
    | some c => readChars opening none (c :: flushHigh high done) rest
    | none =>
      if e == 'u' then refuse .badUnit (e :: rest) else refuse .badEscape ('\\' :: e :: rest)
  | c :: rest =>
    if c.toNat < 32 then refuse .control (c :: rest)
    else readChars opening none (c :: flushHigh high done) rest

def readFraction? : List Char → Option (List Char × List Char)
  | '.' :: rest =>
    let digits := rest.takeWhile Char.isDigit
    if digits.isEmpty then none else some (digits, rest.dropWhile Char.isDigit)
  | _ => none

def readPower? : List Char → Option (Int × List Char)
  | mark :: rest =>
    let (negative, body) := Numeral.splitSign rest
    let digits := body.takeWhile Char.isDigit
    if (mark == 'e' || mark == 'E') && !digits.isEmpty then
      some (Numeral.signed negative (Text.digitsValue digits), body.dropWhile Char.isDigit)
    else none
  | [] => none

/-- The digits in front of a text, of which no other follows a zero that comes first. -/
def wholeDigits (cs : List Char) : List Char :=
  if cs.head? == some '0' then ['0'] else cs.takeWhile Char.isDigit

/-- Read a number from its first digit on. A text without one is refused at `start`. -/
def readUnsigned (negative : Bool) (start cs : List Char) : Except JsonError (Json × List Char) :=
  let whole := wholeDigits cs
  if whole.isEmpty then refuse .noValue start
  else
    let rest := cs.drop whole.length
    match readFraction? rest, readPower? ((readFraction? rest).map (·.2) |>.getD rest) with
    | none, none =>
      match Numeral.readDigits whole with
      | .ok n => .ok (.int (Numeral.signed negative n), rest)
      | .error _ => .error (.tooLong whole.length)
    | some (fraction, rest), none =>
      .ok (.double (Numeral.decimalValue negative whole fraction 0), rest)
    | none, some (power, rest) =>
      .ok (.double (Numeral.decimalValue negative whole [] power), rest)
    | some (fraction, _), some (power, rest) =>
      .ok (.double (Numeral.decimalValue negative whole fraction power), rest)

def readNumber (cs : List Char) : Except JsonError (Json × List Char) :=
  match cs with
  | '-' :: rest => readUnsigned true cs rest
  | _ => readUnsigned false cs cs

/-- The words that stand for values. -/
def words : List (String × Json) :=
  [("null", .null), ("true", .bool true), ("false", .bool false), ("NaN", .double .nan),
    ("Infinity", .double (.infinite false)), ("-Infinity", .double (.infinite true))]

/-- Read a word that stands for a value, or a number. -/
def readWord (cs : List Char) : Except JsonError (Json × List Char) :=
  match words.find? fun (word, _) => word.toList.isPrefixOf cs with
  | some (word, v) => .ok (v, cs.drop word.length)
  | none => readNumber cs

/-- Read what comes after a value in a list or an object: its closing sign, or a comma and what
`more` reads. -/
def afterValue {α : Type} (close : Char) (last : α)
    (more : List Char → Except JsonError (α × List Char)) (cs : List Char) :
    Except JsonError (α × List Char) :=
  match skipSpace cs with
  | [] => refuse .noComma []
  | c :: rest =>
    if c == close then .ok (last, rest)
    else if c == ',' then more (skipSpace rest)
    else refuse .noComma (c :: rest)

mutual

/-- Read a value with at most `levels` levels of lists and objects. Every value, item and member
takes at least one character, so `fuel` is enough when it exceeds the length of the text. -/
def readValue (fuel levels : Nat) (cs : List Char) : Except JsonError (Json × List Char) :=
  match fuel with
  | 0 => refuse .noValue cs
  | fuel + 1 =>
    match cs, levels with
    | '"' :: rest, _ => do
      let (s, rest) ← readChars cs.length none [] rest
      return (.text (String.ofList s), rest)
    | '\x7b' :: _, 0 => .error (.tooNested ⟨.object⟩)
    | '\x7b' :: rest, levels + 1 =>
      match skipSpace rest with
      | '\x7d' :: rest => .ok (.object [], rest)
      | rest => do
        let (members, rest) ← readMembers fuel levels rest
        return (.object (Entries.ofMembers members), rest)
    | '[' :: _, 0 => .error (.tooNested ⟨.list⟩)
    | '[' :: rest, levels + 1 =>
      match skipSpace rest with
      | ']' :: rest => .ok (.array [], rest)
      | rest => do
        let (items, rest) ← readItems fuel levels rest
        return (.array items, rest)
    | cs, _ => readWord cs

/-- Read the items of a list up to its closing bracket. -/
def readItems (fuel levels : Nat) (cs : List Char) : Except JsonError (List Json × List Char) :=
  match fuel with
  | 0 => refuse .noValue cs
  | fuel + 1 => do
    let (v, rest) ← readValue fuel levels cs
    let more (cs : List Char) : Except JsonError (List Json × List Char) := do
      let (items, rest) ← readItems fuel levels cs
      return (v :: items, rest)
    afterValue ']' [v] more rest

/-- Read the members of an object up to its closing brace. -/
def readMembers (fuel levels : Nat) (cs : List Char) :
    Except JsonError (List (String × Json) × List Char) :=
  match fuel with
  | 0 => refuse .noKey cs
  | fuel + 1 =>
    match cs with
    | '"' :: rest => do
      let (key, rest) ← readChars cs.length none [] rest
      match skipSpace rest with
      | ':' :: rest =>
        let (v, rest) ← readValue fuel levels (skipSpace rest)
        let member := (String.ofList key, v)
        let more (cs : List Char) : Except JsonError (List (String × Json) × List Char) := do
          let (members, rest) ← readMembers fuel levels cs
          return (member :: members, rest)
        afterValue '\x7d' [member] more rest
      | rest => refuse .noColon rest
    | cs => refuse .noKey cs

end

/-- Read a text without a byte order mark as one value. -/
def readUnmarked (cs : List Char) : Except JsonError Json :=
  match readValue (cs.length + 1) maxLevels (skipSpace cs) with
  | .ok (v, rest) =>
    if (skipSpace rest).isEmpty then .ok v else refuse .surplus (skipSpace rest)
  | .error e => .error e

def read (cs : List Char) : Except JsonError Json :=
  if cs.head? == some '\ufeff' then .error (.malformed .mark 0)
  else
    match readUnmarked cs with
    | .error (.malformed flaw remaining) => .error (.malformed flaw (cs.length - remaining))
    | outcome => outcome

/-- The outcome of reading a text that need not be JSON. Nothing comes of one that is not. -/
def orNone : Except JsonError Json → Except TooNested (Option Json)
  | .ok v => .ok (some v)
  | .error (.tooNested e) => .error e
  | .error _ => .ok none

/-- The value that a text writes, if it is JSON text. -/
def read? (cs : List Char) : Except TooNested (Option Json) := orNone (read cs)

end Json

end PromptForm
