import PromptForm.Json.Reader
import PromptForm.Text.Utf8

/-! # Characters in addresses

Every part of an address has characters that it cannot hold as they are. They are written as percent
signs with two digits for every byte. What is written that way already stays as it is.
-/

namespace PromptForm.Address

/-- The parts of an address in which characters are escaped. -/
inductive Part where
  | userInfo
  | host
  | path
  | query
  | fragment
  deriving DecidableEq, Repr

/-- The basic characters that a part cannot hold as they are. -/
def Part.reserved : Part → List Char
  | .userInfo => [' ', '"', '#', '<', '>', '?', '\x60', '\x7b', '\x7d', '/', ';', '=', '@', '[',
      '\\', ']', '^', '|']
  | .host => [' ', '#', '/', ':', '<', '>', '?', '@', '[', ']', '^']
  | .path => [' ', '"', '#', '<', '>', '?', '\x60', '\x7b', '\x7d']
  | .query => [' ', '"', '#', '<', '>']
  | .fragment => [' ', '"', '<', '>', '\x60']

def hexDigit (n : Nat) : Char := if n < 10 then Char.ofNat (48 + n) else Char.ofNat (55 + n)

def escapeByte (b : UInt8) : List Char := ['%', hexDigit (b.toNat / 16), hexDigit (b.toNat % 16)]

def escapeChar (part : Part) (c : Char) : List Char :=
  if 127 ≤ c.toNat || part.reserved.contains c then
    (Text.utf8Bytes (String.singleton c)).flatMap escapeByte
  else [c]

def escape (part : Part) (cs : List Char) : List Char := cs.flatMap (escapeChar part)

/-- The marks that stay as they are in a reference. -/
def referenceMarks : List Char := ":/%#?=@[]!$&'()*+,;_.-~".toList

/-- A text as a reference to an address. Percent signs and the marks between the parts of an address
stay as they are. -/
def reference (s : String) : String :=
  onText (fun cs => cs.flatMap fun c =>
    if c.isAlphanum || referenceMarks.contains c then [c]
    else (Text.utf8Bytes (String.singleton c)).flatMap escapeByte) s

/-- The bytes of a text in which percent signs with two digits stand for bytes. Other percent signs
stand for themselves. -/
def unescape : List Char → List UInt8
  | [] => []
  | '%' :: a :: b :: rest =>
    match Json.hexValue? a, Json.hexValue? b with
    | some high, some low => UInt8.ofNat (16 * high + low) :: unescape rest
    | _, _ => Text.utf8Bytes "%" ++ unescape (a :: b :: rest)
  | c :: rest => Text.utf8Bytes (String.singleton c) ++ unescape rest

def unescapedText (cs : List Char) : String := String.ofList (Text.decodeUtf8 (unescape cs))

end PromptForm.Address
