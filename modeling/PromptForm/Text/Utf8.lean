/-! # Bytes and text

Text is sent as UTF-8. Bytes that are no UTF-8 are read leniently: every longest beginning of a
character that breaks off, and every byte that begins none, shows as one replacement sign.
-/

namespace PromptForm.Text

def utf8Bytes (s : String) : List UInt8 := s.toUTF8.toList

/-- The range of the second byte after the first byte of a character of two, three or four bytes,
and the number of further bytes after the second. -/
def secondByte? (b : UInt8) : Option (UInt8 × UInt8 × Nat) :=
  if 0xc2 ≤ b && b ≤ 0xdf then some (0x80, 0xbf, 0)
  else if b == 0xe0 then some (0xa0, 0xbf, 1)
  else if b == 0xed then some (0x80, 0x9f, 1)
  else if 0xe1 ≤ b && b ≤ 0xef then some (0x80, 0xbf, 1)
  else if b == 0xf0 then some (0x90, 0xbf, 2)
  else if 0xf1 ≤ b && b ≤ 0xf3 then some (0x80, 0xbf, 2)
  else if b == 0xf4 then some (0x80, 0x8f, 2)
  else none

/-- The value bits of the first byte of a character. -/
def leadBits (b : UInt8) : Nat :=
  if b < 0xe0 then b.toNat % 32 else if b < 0xf0 then b.toNat % 16 else b.toNat % 8

/-- Decode bytes. Inside a character, `code` holds the bits so far, `more` counts the bytes still
to come and the next byte must lie between `low` and `high`. -/
def decodeFrom (code more : Nat) (low high : UInt8) : List UInt8 → List Char
  | [] => if more == 0 then [] else ['\ufffd']
  | b :: rest =>
    if more != 0 && low ≤ b && b ≤ high then
      let code := code * 64 + b.toNat % 64
      if more == 1 then Char.ofNat code :: decodeFrom 0 0 0x80 0xbf rest
      else decodeFrom code (more - 1) 0x80 0xbf rest
    else
      let broken := if more == 0 then [] else ['\ufffd']
      if b < 0x80 then broken ++ Char.ofNat b.toNat :: decodeFrom 0 0 0x80 0xbf rest
      else
        match secondByte? b with
        | some (low, high, further) => broken ++ decodeFrom (leadBits b) (further + 1) low high rest
        | none => broken ++ '\ufffd' :: decodeFrom 0 0 0x80 0xbf rest

/-- Decode bytes leniently. -/
def decodeUtf8 (bytes : List UInt8) : List Char := decodeFrom 0 0 0x80 0xbf bytes

end PromptForm.Text
