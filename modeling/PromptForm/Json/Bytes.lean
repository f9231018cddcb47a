import PromptForm.Json.Reader
import PromptForm.Text.Utf8

/-! # Reading JSON bytes

Bytes of JSON text are in one of the Unicode forms. As JSON text begins with basic characters, the
form shows in the zeros among the first bytes.
-/

namespace PromptForm

/-- The forms of Unicode text, by the number of bytes in a unit. Larger units have their high or
their low byte first. -/
inductive UnicodeForm where
  | units8
  | units16 (highFirst : Bool)
  | units32 (highFirst : Bool)
  deriving DecidableEq, Repr

namespace UnicodeForm

def ofBytes : List UInt8 → UnicodeForm
  | [0, _] => units16 true
  | [_, 0] => units16 false
  | 0 :: 0 :: _ :: _ :: _ => units32 true
  | 0 :: _ :: _ :: _ :: _ => units16 true
  | _ :: 0 :: 0 :: 0 :: _ => units32 false
  | _ :: 0 :: _ :: _ :: _ => units16 false
  | _ => units8

def unitValue (highFirst : Bool) (bytes : List UInt8) : Nat :=
  (if highFirst then bytes else bytes.reverse).foldl (fun n b => n * 256 + b.toNat) 0

/-- The units of two bytes. Nothing may be left. -/
def units16? (highFirst : Bool) : List UInt8 → Option (List Nat)
  | [] => some []
  | a :: b :: rest => (units16? highFirst rest).map (unitValue highFirst [a, b] :: ·)
  | _ => none

/-- The units of four bytes. Nothing may be left. -/
def units32? (highFirst : Bool) : List UInt8 → Option (List Nat)
  | [] => some []
  | a :: b :: c :: d :: rest =>
    (units32? highFirst rest).map (unitValue highFirst [a, b, c, d] :: ·)
  | _ => none

/-- The characters of units of two bytes. A character beyond the first 65536 takes two units; half a
pair shows as a replacement sign. -/
def charsOfUnits (high : Option Nat) : List Nat → List Char
  | [] => if high.isSome then ['\ufffd'] else []
  | unit :: rest =>
    match high with
    | some first =>
      if 0xdc00 ≤ unit && unit < 0xe000 then
        Char.ofNat (0x10000 + (first - 0xd800) * 0x400 + (unit - 0xdc00)) :: charsOfUnits none rest
      else if 0xd800 ≤ unit && unit < 0xdc00 then '\ufffd' :: charsOfUnits (some unit) rest
      else '\ufffd' :: Char.ofNat unit :: charsOfUnits none rest
    | none =>
      if 0xd800 ≤ unit && unit < 0xdc00 then charsOfUnits (some unit) rest
      else if 0xdc00 ≤ unit && unit < 0xe000 then '\ufffd' :: charsOfUnits none rest
      else Char.ofNat unit :: charsOfUnits none rest

/-- The characters of a text in some form, if the bytes are such a text. -/
def decode? (bytes : List UInt8) : UnicodeForm → Option (List Char)
  | units8 => some (Text.decodeUtf8 bytes)
  | units16 highFirst => (units16? highFirst bytes).map (charsOfUnits none)
  | units32 highFirst => do
    let units ← units32? highFirst bytes
    if units.all (· < 0x110000) then
      some (units.map fun unit =>
        if 0xd800 ≤ unit && unit < 0xe000 then '\ufffd' else Char.ofNat unit)
    else none

end UnicodeForm

namespace Json

/-- Read the bytes of a whole text as one value. A byte order mark in front does not count. Nothing
is read from bytes that are no text. -/
def readBytes? (s : String) : Option (Except JsonError Json) :=
  let bytes := Text.utf8Bytes s
  match s.toList with
  | '\ufeff' :: rest => some (read rest)
  | _ => ((UnicodeForm.ofBytes bytes).decode? bytes).map read

end Json

end PromptForm
