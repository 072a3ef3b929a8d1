import RequestRouting.Text.CodePoints

/-!
# Blanks

The characters with the Unicode property White_Space, and texts without the blanks at their
ends.
-/

namespace RequestRouting.Text

/-- The code points with the property White_Space. -/
def blankRanges : List (Nat × Nat) :=
  [(0x9, 0xD), (0x20, 0x20), (0x85, 0x85), (0xA0, 0xA0), (0x1680, 0x1680), (0x2000, 0x200A),
   (0x2028, 0x2029), (0x202F, 0x202F), (0x205F, 0x205F), (0x3000, 0x3000)]

/-- Whether a character has the property White_Space. -/
def isBlank (c : Char) : Bool :=
  inRanges blankRanges c.toNat

/-- The text without the blanks at its end. -/
def trimEnd : List Char → List Char
  | [] => []
  | c :: cs =>
    match trimEnd cs with
    | [] => if isBlank c then [] else [c]
    | rest => c :: rest

/-- The text without the blanks at either end. -/
def trim (cs : List Char) : List Char :=
  trimEnd (cs.dropWhile isBlank)

/-- A string without the blanks at either end. -/
def trimmed (s : String) : String :=
  String.ofList (trim s.toList)

end RequestRouting.Text
