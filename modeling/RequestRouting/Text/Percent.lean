import RequestRouting.Text.Digits
import RequestRouting.Text.Utf8

/-!
# Percent encoding

In the encoding of queries a plus sign stands for a space, and a percent sign and two
hexadecimal digits stand for a byte. A percent sign without them stands for itself.
-/

namespace RequestRouting.Text

/-- The value of a byte that is a hexadecimal digit. -/
def hexByte? (byte : UInt8) : Option Nat :=
  hexDigit? (Char.ofNat byte.toNat)

/-- The byte written by the two bytes after a percent sign. The number they write may carry a
plus sign, which leaves it one digit. -/
def escapedByte? (first second : UInt8) : Option UInt8 := do
  let low ← hexByte? second
  if first = 0x2B then return .ofNat low
  return .ofNat ((← hexByte? first) * 16 + low)

/-- The bytes that an encoded text stands for. -/
def decodeBytes : List UInt8 → List UInt8
  | [] => []
  | 0x25 :: first :: second :: rest =>
    match escapedByte? first second with
    | some byte => byte :: decodeBytes rest
    | none => 0x25 :: decodeBytes (first :: second :: rest)
  | 0x2B :: rest => 0x20 :: decodeBytes rest
  | byte :: rest => byte :: decodeBytes rest

/-- The text that an encoded text stands for. -/
def decodePercent (cs : List Char) : List Char :=
  decodeUtf8 (decodeBytes (encodeUtf8 cs))

end RequestRouting.Text
