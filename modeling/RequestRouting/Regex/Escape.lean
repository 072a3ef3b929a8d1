import RequestRouting.Regex.Basic
import RequestRouting.Regex.Flags
import RequestRouting.Text.Digits

/-!
# Escapes

What may follow a backslash in the text of a regular expression: punctuation that stands for
itself, names of characters and of classes, and assertions. Letters and digits without a
meaning are refused, and so are references to groups.
-/

namespace RequestRouting
namespace Regex

/-- The punctuation that has a meaning somewhere in a regular expression. -/
def isMeta (c : Char) : Bool :=
  "\\.+*?()|[]\x7b\x7d^$#&-~".toList.contains c

/-- A text in which all punctuation with a meaning is escaped. -/
def escape (cs : List Char) : List Char :=
  cs.flatMap fun c => if isMeta c then ['\\', c] else [c]

/-- What an escape stands for. -/
inductive Escape where
  | char (c : Char)
  | set (set : CharSet)
  | check (assertion : Assertion)

/-- The character with a code point, if there is one. -/
def charOf? (code : Nat) : Option Char :=
  if code.isValidChar then some (Char.ofNat code) else none

/-- The character of a hexadecimal escape that takes `width` digits, or any number of them
between braces. -/
def hexEscape? (flags : Flags) (width : Nat) (cs : List Char) : Option (Char × List Char) :=
  let isHex := fun c => (Text.hexDigit? c).isSome
  match flags.skip cs with
  | '{' :: cs => do
    let (digits, rest) := flags.span isHex cs.length (flags.skip cs)
    match rest with
    | '}' :: rest => return (← charOf? (← Text.hexValue? digits), flags.skip rest)
    | _ => none
  | cs => do
    let (digits, rest) := flags.span isHex width cs
    if digits.length < width then none
    return (← charOf? (← Text.hexValue? digits), rest)

/-- The character of an escape by two digits, which outside of Unicode is one of ASCII, while one
between braces can be any. -/
def byteEscape? (flags : Flags) (cs : List Char) : Option (Char × List Char) := do
  let (c, rest) ← hexEscape? flags 2 cs
  let inBraces := (flags.skip cs).head? == some '{'
  if flags.unicode || inBraces || c.toNat < 0x80 then some (c, rest) else none

/-- The assertion named between braces after `\b`. The outer answer is missing if braces with a
name are not closed or the name is unknown, the inner one if what follows is no name at all but
may be a count. -/
def namedBoundary? (flags : Flags) : List Char → Option (Option (Assertion × List Char))
  | '{' :: cs =>
    let isNameChar := fun c : Char => c.isAlpha || c == '-'
    match flags.skip cs with
    | [] => none
    | c :: cs =>
      if !isNameChar c then some none
      else
        let (name, rest) := flags.span isNameChar (cs.length + 1) (c :: cs)
        match rest with
        | '}' :: rest =>
          match String.ofList name with
          | "start" => some (some (.wordStart flags.unicode, rest))
          | "end" => some (some (.wordEnd flags.unicode, rest))
          | "start-half" => some (some (.wordStartHalf flags.unicode, rest))
          | "end-half" => some (some (.wordEndHalf flags.unicode, rest))
          | _ => none
        | _ => none
  | _ => some none

/-- Reads the text after a backslash. -/
def readEscape? (flags : Flags) : List Char → Option (Escape × List Char)
  | [] => none
  | c :: rest =>
    match c with
    | 'x' => (byteEscape? flags rest).map fun (c, rest) => (.char c, rest)
    | 'u' => (hexEscape? flags 4 rest).map fun (c, rest) => (.char c, rest)
    | 'U' => (hexEscape? flags 8 rest).map fun (c, rest) => (.char c, rest)
    | 'd' => ofClass false CharSet.digit rest
    | 'D' => ofClass true CharSet.digit rest
    | 's' => ofClass false CharSet.blank rest
    | 'S' => ofClass true CharSet.blank rest
    | 'w' => ofClass false CharSet.word rest
    | 'W' => ofClass true CharSet.word rest
    | 'a' => some (.char '\x07', rest)
    | 'f' => some (.char '\x0c', rest)
    | 't' => some (.char '\t', rest)
    | 'n' => some (.char '\n', rest)
    | 'r' => some (.char '\r', rest)
    | 'v' => some (.char '\x0b', rest)
    | 'A' => some (.check .textStart, rest)
    | 'z' => some (.check .textEnd, rest)
    | 'B' => some (.check (.noWordBoundary flags.unicode), rest)
    | '<' => some (.check (.wordStart flags.unicode), rest)
    | '>' => some (.check (.wordEnd flags.unicode), rest)
    | 'b' => (namedBoundary? flags rest).map fun named =>
        match named with
        | some (assertion, rest) => (.check assertion, rest)
        | none => (.check (.wordBoundary flags.unicode), rest)
    | c => if c.toNat < 0x80 && !c.isAlphanum then some (.char c, rest) else none
where
  /-- A class or its complement. Case makes no difference to it. -/
  ofClass (negated : Bool) (set : (unicode : Bool) → CharSet) (rest : List Char) :
      Option (Escape × List Char) :=
    ({ flags with ignoreCase := false }.adjust? negated (set flags.unicode)).map
      fun set => (.set set, rest)

end Regex
end RequestRouting
