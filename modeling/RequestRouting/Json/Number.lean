import RequestRouting.Json.Basic
import RequestRouting.Text.Digits

/-!
# Numbers of JSON texts

Of a number only its range matters. The digits are read into a significand below 2^64, beyond
which they count as zeros, and the number is the product of the significand and a power of ten,
both rounded to floating-point numbers. It can be read unless that product rounds to infinity.
-/

namespace RequestRouting.Json

/-- Splits off the digits in front of a text, of which there has to be one. -/
def digits? (cs : List Char) : Option (List Char × List Char) :=
  match cs.takeWhile Char.isDigit with
  | [] => none
  | digits => some (digits, cs.dropWhile Char.isDigit)

/-- Appends digits to a significand as long as it stays below 2^64, and counts them. -/
def appendDigits (significand : Nat) : List Char → Nat × Nat
  | [] => (significand, 0)
  | c :: cs =>
    let longer := 10 * significand + Text.decimalValue [c]
    if longer < Nat.pow 2 64 then
      let (significand, count) := appendDigits longer cs
      (significand, count + 1)
    else (significand, 0)

/-- The number of 53 binary digits, and zeros after them, that is nearest to `n`. A half goes to
the neighbour whose last digit is even. -/
def roundToDouble (n : Nat) : Nat :=
  let unit := Nat.pow 2 (n.log2 - 52)
  let below := n / unit
  let half := 2 * (n % unit)
  if unit < half ∨ (half = unit ∧ below % 2 = 1) then (below + 1) * unit else below * unit

/-- Whether `significand * 10 ^ exponent` is a finite number. -/
def isFinite (significand : Nat) (exponent : Int) : Bool :=
  if significand = 0 ∨ exponent ≤ 0 then true
  else if 308 < exponent then false
  else roundToDouble significand * roundToDouble (Nat.pow 10 exponent.toNat)
    < Nat.pow 2 1024 - Nat.pow 2 970

/-- Whether the number with these digits before and after its point is finite. -/
def isFiniteDecimal (whole fraction : List Char) (exponent : Int) : Bool :=
  let (significand, wholeCount) := appendDigits 0 whole
  let (significand, fractionCount) := appendDigits significand fraction
  isFinite significand (exponent + (whole.length - wholeCount : Nat) - fractionCount)

/-- Reads a decimal number of at least one digit. -/
def natural? (cs : List Char) : Option (Nat × List Char) :=
  (digits? cs).map fun (digits, rest) => (Text.decimalValue digits, rest)

/-- Reads the exponent of a number, which may be missing. -/
def exponent? : List Char → Option (Int × List Char)
  | c :: cs =>
    if c = 'e' ∨ c = 'E' then
      match cs with
      | '-' :: cs => (natural? cs).map fun (exponent, rest) => (-(exponent : Int), rest)
      | '+' :: cs => (natural? cs).map fun (exponent, rest) => ((exponent : Int), rest)
      | cs => (natural? cs).map fun (exponent, rest) => ((exponent : Int), rest)
    else some (0, c :: cs)
  | [] => some (0, [])

/-- Reads a number without its sign. A number of several digits does not begin with zero. -/
def number? (cs : List Char) : Option (Json × List Char) := do
  let (whole, rest) ← match cs with
    | '0' :: cs => some (['0'], cs)
    | cs => digits? cs
  let (fraction, rest) ← match rest with
    | '.' :: cs => digits? cs
    | cs => some ([], cs)
  let (exponent, rest) ← exponent? rest
  return (.number (isFiniteDecimal whole fraction exponent), rest)

end RequestRouting.Json
