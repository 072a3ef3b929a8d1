/-!
# Digits

Numbers written by decimal or hexadecimal digits.
-/

namespace RequestRouting.Text

/-- The number written by decimal digits. -/
def decimalValue (digits : List Char) : Nat :=
  digits.foldl (fun value c => value * 10 + (c.toNat - '0'.toNat)) 0

/-- The value of a hexadecimal digit of either case. -/
def hexDigit? (c : Char) : Option Nat :=
  if c.isDigit then some (c.toNat - '0'.toNat)
  else if 'a' ≤ c ∧ c ≤ 'f' then some (c.toNat - 'a'.toNat + 10)
  else if 'A' ≤ c ∧ c ≤ 'F' then some (c.toNat - 'A'.toNat + 10)
  else none

/-- The number written by hexadecimal digits, if there are any and nothing else. -/
def hexValue? : List Char → Option Nat
  | [] => none
  | digits => digits.foldlM (fun value c => (hexDigit? c).map (value * 16 + ·)) 0

end RequestRouting.Text
