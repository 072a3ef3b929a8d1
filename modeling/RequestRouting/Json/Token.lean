import RequestRouting.Json.Number

/-!
# Tokens of JSON texts

A JSON text is a sequence of punctuation, words, numbers and strings with blanks in between.
-/

namespace RequestRouting.Json

/-- A token: a value that is no array or object, or a punctuation character. -/
inductive Token where
  | scalar (value : Json)
  | mark (c : Char)

/-- A part of a string literal: a character, or an escaped half of a surrogate pair. -/
inductive StringPart where
  | char (c : Char)
  | surrogate (unit : Nat)

/-- The part denoted by a character after a backslash. -/
def simpleEscape? : Char → Option Char
  | '"' => some '"'
  | '\\' => some '\\'
  | '/' => some '/'
  | 'b' => some '\x08'
  | 'f' => some '\x0c'
  | 'n' => some '\n'
  | 'r' => some '\r'
  | 't' => some '\t'
  | _ => none

/-- The part denoted by four hexadecimal digits. -/
def unitEscape? (a b c d : Char) : Option StringPart := do
  let unit ← Text.hexValue? [a, b, c, d]
  if 0xD800 ≤ unit ∧ unit ≤ 0xDFFF then return .surrogate unit
  return .char (Char.ofNat unit)

/-- Adds a part to those read after it. -/
def consPart (part : StringPart) (read : List StringPart × List Char) :
    List StringPart × List Char :=
  (part :: read.1, read.2)

/-- Reads a string literal after its opening quote. -/
def stringParts? : List Char → Option (List StringPart × List Char)
  | [] => none
  | '"' :: rest => some ([], rest)
  | '\\' :: 'u' :: a :: b :: c :: d :: rest => do
    return consPart (← unitEscape? a b c d) (← stringParts? rest)
  | '\\' :: c :: rest => do
    return consPart (.char (← simpleEscape? c)) (← stringParts? rest)
  | c :: rest => do
    if c.toNat < 0x20 ∨ c = '\\' then none
    return consPart (.char c) (← stringParts? rest)

/-- The characters of a string literal, whose surrogates have to stand in pairs. -/
def joinParts? : List StringPart → Option (List Char)
  | [] => some []
  | .char c :: parts => (joinParts? parts).map (c :: ·)
  | .surrogate high :: .surrogate low :: parts =>
    if high < 0xDC00 ∧ 0xDC00 ≤ low then
      (joinParts? parts).map
        (Char.ofNat (0x10000 + (high - 0xD800) * 0x400 + (low - 0xDC00)) :: ·)
    else none
  | .surrogate _ :: _ => none

/-- Reads one token that begins with `c`. -/
def token? (c : Char) (rest : List Char) : Option (Token × List Char) :=
  match c, rest with
  | 'n', 'u' :: 'l' :: 'l' :: rest => some (.scalar .null, rest)
  | 't', 'r' :: 'u' :: 'e' :: rest => some (.scalar (.bool true), rest)
  | 'f', 'a' :: 'l' :: 's' :: 'e' :: rest => some (.scalar (.bool false), rest)
  | '"', rest => (stringParts? rest).map fun (parts, rest) =>
      (.scalar (.string ((joinParts? parts).map String.ofList)), rest)
  | '-', rest => (number? rest).map fun (value, rest) => (.scalar value, rest)
  | c, rest =>
    if c.isDigit then (number? (c :: rest)).map fun (value, rest) => (.scalar value, rest)
    else if "[]\x7b\x7d:,".toList.contains c then some (.mark c, rest)
    else none

/-- The tokens of a text. -/
def tokens? (cs : List Char) : Option (List Token) :=
  match cs with
  | [] => some []
  | c :: rest =>
    if c = ' ' ∨ c = '\n' ∨ c = '\t' ∨ c = '\r' then tokens? rest
    else match token? c rest with
      | none => none
      | some (token, rest') =>
        if rest'.length ≤ rest.length then (tokens? rest').map (token :: ·) else none
termination_by cs.length

end RequestRouting.Json
