/-!
# UTF-8

Reading bytes as UTF-8. Bytes that are not well formed do not stop the reading: each longest
beginning of a sequence that cannot be completed is read as one replacement character.
-/

namespace RequestRouting.Text

/-- The character that stands for what cannot be read. -/
def replacement : Char := '\ufffd'

/-- For the first byte of a sequence of several bytes, their number, the bits it contributes,
and the bounds of the second byte. The bounds exclude forms that are longer than needed,
surrogates, and code points beyond the last one. -/
def lead? (byte : UInt8) : Option (Nat × Nat × UInt8 × UInt8) :=
  let n := byte.toNat
  if n < 0xC2 then none
  else if n ≤ 0xDF then some (2, n - 0xC0, 0x80, 0xBF)
  else if n = 0xE0 then some (3, 0, 0xA0, 0xBF)
  else if n = 0xED then some (3, 0xD, 0x80, 0x9F)
  else if n ≤ 0xEF then some (3, n - 0xE0, 0x80, 0xBF)
  else if n = 0xF0 then some (4, 0, 0x90, 0xBF)
  else if n ≤ 0xF3 then some (4, n - 0xF0, 0x80, 0xBF)
  else if n = 0xF4 then some (4, 4, 0x80, 0x8F)
  else none

/-- The bits read so far, followed by those of one more byte. -/
def extend (bits : Nat) (byte : UInt8) : Nat :=
  bits * 64 + (byte.toNat - 0x80)

/-- Whether a byte lies between two others. -/
def within (low high byte : UInt8) : Bool :=
  low ≤ byte && byte ≤ high

/-- The characters that the bytes stand for. -/
def decodeUtf8 : List UInt8 → List Char
  | [] => []
  | a :: as =>
    match lead? a with
    | none => (if a < 0x80 then Char.ofNat a.toNat else replacement) :: decodeUtf8 as
    | some (width, bits, low, high) =>
      match as with
      | [] => [replacement]
      | b :: bs =>
        if !within low high b then replacement :: decodeUtf8 (b :: bs)
        else if width = 2 then Char.ofNat (extend bits b) :: decodeUtf8 bs
        else match bs with
          | [] => [replacement]
          | c :: cs =>
            if !within 0x80 0xBF c then replacement :: decodeUtf8 (c :: cs)
            else if width = 3 then Char.ofNat (extend (extend bits b) c) :: decodeUtf8 cs
            else match cs with
              | [] => [replacement]
              | d :: ds =>
                if !within 0x80 0xBF d then replacement :: decodeUtf8 (d :: ds)
                else Char.ofNat (extend (extend (extend bits b) c) d) :: decodeUtf8 ds

/-- The bytes of a text. -/
def encodeUtf8 (cs : List Char) : List UInt8 :=
  cs.flatMap String.utf8EncodeChar

end RequestRouting.Text
