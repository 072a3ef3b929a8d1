import RequestRouting.Regex.CharSet

/-!
# Flags of regular expressions

The flags that change how the text of a regular expression is read. Some of them change what a set
of characters means, and one of them lets blanks and comments stand between the parts of the text.
-/

namespace RequestRouting
namespace Regex

/-- The flags that change how the text after them is read. -/
structure Flags where
  ignoreCase : Bool := false
  multiLine : Bool := false
  dotMatchesAll : Bool := false
  swapGreed : Bool := false
  /-- Whether a line also ends at a carriage return. -/
  carriageReturns : Bool := false
  /-- Whether case and classes are those of Unicode, not only of ASCII. -/
  unicode : Bool := true
  /-- Whether blanks and comments are skipped. -/
  skipsBlanks : Bool := false

namespace Flags

/-- The flags with one of them set or cleared. -/
def set? (flags : Flags) (letter : Char) (value : Bool) : Option Flags :=
  match letter with
  | 'i' => some { flags with ignoreCase := value }
  | 'm' => some { flags with multiLine := value }
  | 's' => some { flags with dotMatchesAll := value }
  | 'U' => some { flags with swapGreed := value }
  | 'R' => some { flags with carriageReturns := value }
  | 'u' => some { flags with unicode := value }
  | 'x' => some { flags with skipsBlanks := value }
  | _ => none

/-- The text behind blanks and comments, of which each reaches from a number sign to the end of the
line. -/
def behindBlanks : (inComment : Bool) → List Char → List Char
  | _, [] => []
  | true, c :: cs => behindBlanks (c != '\n') cs
  | false, c :: cs =>
    if Text.isBlank c then behindBlanks false cs
    else if c = '#' then behindBlanks true cs
    else c :: cs

/-- The text behind what is skipped. -/
def skip (flags : Flags) (cs : List Char) : List Char :=
  if flags.skipsBlanks then behindBlanks false cs else cs

/-- The characters with a property at the beginning of a text, at most `most` of them, and what
follows them. What is skipped can stand behind each. -/
def span (flags : Flags) (p : Char → Bool) : (most : Nat) → List Char → List Char × List Char
  | most + 1, c :: cs =>
    if p c then
      let (taken, rest) := span flags p most (flags.skip cs)
      (c :: taken, rest)
    else ([], c :: cs)
  | _, cs => ([], cs)

/-- The set as it is meant where case may be ignored and the set may be negated. Case is
ignored first, so that a negated set leaves out all forms of a character. -/
def adjust (flags : Flags) (negated : Bool) (set : CharSet) : CharSet :=
  let set := if flags.ignoreCase then set.folded flags.unicode else set
  if negated then .complement set else set

/-- The set as it is meant. Outside of Unicode it must not have other characters than those of
ASCII, as a negated set has. -/
def adjust? (flags : Flags) (negated : Bool) (set : CharSet) : Option CharSet :=
  let set := flags.adjust negated set
  if flags.unicode || set.isAscii then some set else none

end Flags
end Regex
end RequestRouting
