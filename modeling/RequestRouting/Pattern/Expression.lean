import RequestRouting.Pattern.Token
import RequestRouting.Regex.Dialect
import RequestRouting.Regex.Escape

/-!
# The regular expression of a pattern

Each segment of a pattern stands for a slash and what its tokens match; `**` and `{*name}` stand
for any number of segments, each with its slash. A pattern without constraints is compiled
directly, whatever its length. A constraint is text that need not be a regular expression by
itself, as in `{x:a)|(b}`, so that a pattern with constraints is written out as one text and read
as a whole.
-/

namespace RequestRouting
namespace Pattern

/-- Any character inside a segment. -/
def inSegment : Regex := .char (.except '/')

/-- Any character that does not end a line. -/
def inLine : Regex := .char (.except '\n')

/-- The expressions of the tokens of a segment, where `slot` is that of the next variable. -/
def tokenExpressions : (slot : Nat) → List PatternToken → List Regex
  | _, [] => []
  | slot, .literal text :: tokens => .literal text :: tokenExpressions slot tokens
  | slot, .parameter _ _ :: tokens =>
    .capture slot inSegment.plus :: tokenExpressions (slot + 1) tokens
  | slot, .star :: tokens => inSegment.star :: tokenExpressions slot tokens
  | slot, .anyChar :: tokens => inSegment :: tokenExpressions slot tokens

/-- The expressions of segments, where `slot` is that of the next variable. -/
def segmentExpressions : (slot : Nat) → List PatternSegment → List Regex
  | _, [] => []
  | slot, .any :: segments =>
    .optional (.seq (.literal ['/']) inLine.star) :: segmentExpressions slot segments
  | slot, .captureRest _ :: segments =>
    .optional (.seq (.literal ['/']) (.capture slot inLine.star))
      :: segmentExpressions (slot + 1) segments
  | slot, .tokens tokens :: segments =>
    .literal ['/'] :: tokenExpressions slot tokens ++
      segmentExpressions (slot + (PatternSegment.tokens tokens).names.length) segments

/-- The expression of a whole path that consists of these segments, and of one more slash if
`slash` allows it. Constraints are left out of account. -/
def directExpression (slash : Bool) (segments : List PatternSegment) : Regex :=
  .ofItems (.check .textStart :: segmentExpressions 0 segments ++
    (if slash then [.optional (.literal ['/'])] else []) ++ [.check .textEnd])

/-- The name of the group for the variable of a slot. -/
def groupName (slot : Nat) : List Char :=
  'p' :: Nat.toDigits 10 slot

/-- The text of a group for the variable of a slot. -/
def writtenGroup (slot : Nat) (inner : List Char) : List Char :=
  "(?P<".toList ++ groupName slot ++ '>' :: inner ++ [')']

/-- The tokens of a segment, written as a regular expression. -/
def writtenTokens : (slot : Nat) → List PatternToken → List Char
  | _, [] => []
  | slot, .literal text :: tokens => Regex.escape text ++ writtenTokens slot tokens
  | slot, .parameter _ constraint :: tokens =>
    writtenGroup slot (constraint.getD "[^/]+".toList) ++ writtenTokens (slot + 1) tokens
  | slot, .star :: tokens => "[^/]*".toList ++ writtenTokens slot tokens
  | slot, .anyChar :: tokens => "[^/]".toList ++ writtenTokens slot tokens

/-- Segments, written as a regular expression. -/
def writtenSegments : (slot : Nat) → List PatternSegment → List Char
  | _, [] => []
  | slot, .any :: segments => "(?:/.*)?".toList ++ writtenSegments slot segments
  | slot, .captureRest _ :: segments =>
    "(?:/".toList ++ writtenGroup slot ".*".toList ++ ")?".toList ++
      writtenSegments (slot + 1) segments
  | slot, .tokens tokens :: segments =>
    '/' :: writtenTokens slot tokens ++
      writtenSegments (slot + (PatternSegment.tokens tokens).names.length) segments

/-- The expression of a whole path, written out. -/
def writtenExpression (slash : Bool) (segments : List PatternSegment) : List Char :=
  '^' :: writtenSegments 0 segments ++ (if slash then ['/', '?'] else []) ++ ['$']

/-- The slot of the variable whose group has this name, of `count` variables. -/
def slotOf? (count : Nat) (name : List Char) : Option Nat :=
  (List.range count).find? (groupName · == name)

/-- The expression of a whole path, if the constraints make one that can be used. -/
def expression [Regex.Dialect] (slash : Bool) (segments : List PatternSegment) :
    Except PatternFault Regex :=
  if segments.any PatternSegment.isConstrained then
    let count := (names segments).length
    Regex.Dialect.read (slotOf? count) count (writtenExpression slash segments)
  else .ok (directExpression slash segments)

theorem expression_of_unconstrained [Regex.Dialect] {segments : List PatternSegment}
    (unconstrained : segments.any PatternSegment.isConstrained = false) (slash : Bool) :
    expression slash segments = .ok (directExpression slash segments) := by
  rw [expression, if_neg (by simp [unconstrained])]

end Pattern
end RequestRouting
