import RequestRouting.Dictionary
import RequestRouting.Method
import RequestRouting.Text.Digits

/-!
# Typed parameters

The values of path parameters are text. Here they are read as numbers, truth values, characters
or methods.
-/

namespace RequestRouting

/-- The number written by decimal digits, of which there is at least one. -/
def digitsValue? (digits : List Char) : Option Nat :=
  if digits.isEmpty || !digits.all Char.isDigit then none
  else some (Text.decimalValue digits)

/-- Reads a natural number up to `greatest`, which may carry a plus sign. -/
def readNatural? (greatest : Nat) (text : String) : Option Nat :=
  let digits := match text.toList with
    | '+' :: digits => digits
    | digits => digits
  (digitsValue? digits).filter (· ≤ greatest)

/-- Reads a whole number of `bits` bits in two's complement, which may carry a sign. -/
def readInteger? (bits : Nat) (text : String) : Option Int :=
  let bound := Nat.pow 2 (bits - 1)
  match text.toList with
  | '-' :: digits => ((digitsValue? digits).filter (· ≤ bound)).map fun n => -(n : Int)
  | _ => (readNatural? (bound - 1) text).map Int.ofNat

/-- Reads a truth value. -/
def readBool? (text : String) : Option Bool :=
  if text = "true" then some true else if text = "false" then some false else none

/-- Reads a text of one character. -/
def readChar? (text : String) : Option Char :=
  match text.toList with
  | [c] => some c
  | _ => none

end RequestRouting
