import RequestRouting.Text.Cut

/-!
# Segments

A path is read as a sequence of segments between slashes. A segment of a pattern is put into
its canonical form: `{id}` and `{name}` become the same segment, as do `**` and `{*rest}`, so
that patterns of one shape have equal segments.
-/

namespace RequestRouting

/-- What a segment of a pattern matches. -/
inductive SegmentStyle where
  /-- The text of the segment itself. -/
  | literal
  /-- `{name}`: any single segment that is not empty. -/
  | parameter
  /-- `*`: any single segment. -/
  | wildcard
  /-- `**` or `{*name}`: any number of segments. -/
  | doubleWildcard
  deriving DecidableEq

namespace SegmentStyle

/-- The styles, strongest first. -/
def all : List SegmentStyle :=
  [literal, parameter, wildcard, doubleWildcard]

/-- Whether a segment of this style matches more than its own text. -/
def isUncertain : SegmentStyle → Bool
  | literal => false
  | _ => true

/-- The text shared by all segments of a style, which literal segments do not have. -/
def canonicalKey? : SegmentStyle → Option String
  | literal => none
  | parameter => some "\x7b\x7d"
  | wildcard => some "*"
  | doubleWildcard => some "**"

end SegmentStyle

/-- A segment in canonical form. Its text is the key by which a pattern tree finds it. -/
structure Segment where
  text : String
  style : SegmentStyle
  deriving DecidableEq

namespace Segment

/-- The segment of every `{name}`. -/
def parameter : Segment := ⟨"\x7b\x7d", .parameter⟩

/-- The segment of `*`. -/
def wildcard : Segment := ⟨"*", .wildcard⟩

/-- The segment of `**` and of every `{*name}`. -/
def doubleWildcard : Segment := ⟨"**", .doubleWildcard⟩

/-- The segment of the path `/`, and of a slash that ends a path. -/
def root : Segment := ⟨"/", .literal⟩

/-- A segment that matches its own text only, whatever it looks like. -/
def literal (token : List Char) : Segment :=
  ⟨String.ofList token, .literal⟩

/-- The canonical segment of a pattern token. Braces that do not enclose the whole token, such
as in `{open`, are literal text. -/
def ofToken (token : List Char) : Segment :=
  if token = ['*'] then wildcard
  else if token = ['*', '*'] then doubleWildcard
  else match Text.braced? token with
    | some name => if name.head? = some '*' then doubleWildcard else parameter
    | none => literal token

/-- Whether this is the segment of a slash that ends a path. -/
def isRoot (segment : Segment) : Bool :=
  segment.text == "/"

end Segment
end RequestRouting
