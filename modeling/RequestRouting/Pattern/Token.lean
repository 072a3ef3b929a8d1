import RequestRouting.Text.Blank
import RequestRouting.Text.Cut

/-!
# Pattern segments

A path pattern is read segment by segment. A segment is `**`, or `{*name}`, or a sequence of
tokens: literal text, `{name}` or `{name:constraint}`, `*` and `?`. Braces nest, so that a
constraint can hold counts such as `\d{4}`; a brace that is never closed is literal text.
-/

namespace RequestRouting

/-- A part of one pattern segment. -/
inductive PatternToken where
  | literal (text : List Char)
  /-- A variable, with the regular expression that constrains it if there is one. -/
  | parameter (name : List Char) (constraint : Option (List Char))
  /-- `*`: any characters of one segment. -/
  | star
  /-- `?`: any one character of a segment. -/
  | anyChar
  deriving DecidableEq

/-- What stands between two slashes of a pattern. -/
inductive PatternSegment where
  | tokens (parts : List PatternToken)
  /-- `**`: any number of segments. -/
  | any
  /-- `{*name}`: any number of segments, which are captured. -/
  | captureRest (name : List Char)
  deriving DecidableEq

/-- Splits the text after an opening brace at the brace that closes it, where `depth` more
braces are open. -/
def closingBrace? : (depth : Nat) → List Char → Option (List Char × List Char)
  | _, [] => none
  | 0, '}' :: cs => some ([], cs)
  | depth + 1, '}' :: cs => (closingBrace? depth cs).map fun (inner, rest) => ('}' :: inner, rest)
  | depth, '{' :: cs =>
    (closingBrace? (depth + 1) cs).map fun (inner, rest) => ('{' :: inner, rest)
  | depth, c :: cs => (closingBrace? depth cs).map fun (inner, rest) => (c :: inner, rest)

theorem length_of_closingBrace? {depth : Nat} {cs inner rest : List Char}
    (closed : closingBrace? depth cs = some (inner, rest)) : rest.length < cs.length := by
  fun_induction closingBrace? depth cs generalizing inner rest with
  | case1 => simp at closed
  | case2 cs => simp_all
  | case3 _ _ ih | case4 _ _ ih | case5 _ _ _ _ _ _ ih =>
    obtain ⟨⟨inner', rest'⟩, found, same⟩ := Option.map_eq_some_iff.1 closed
    have shorter := ih found
    simp_all
    omega

namespace PatternToken

/-- The variable written between a pair of braces. -/
def ofBraces (inner : List Char) : PatternToken :=
  match Text.cut? [':'] inner with
  | some (name, constraint) => parameter name (some constraint)
  | none => parameter inner none

/-- Adds a literal character in front of tokens. -/
def consLiteral (c : Char) : List PatternToken → List PatternToken
  | literal text :: tokens => literal (c :: text) :: tokens
  | tokens => literal [c] :: tokens

/-- The tokens of a segment. -/
def read : List Char → List PatternToken
  | [] => []
  | '{' :: cs =>
    match _closed : closingBrace? 0 cs with
    | some (inner, rest) => ofBraces inner :: read rest
    | none => consLiteral '{' (read cs)
  | '*' :: cs => star :: read cs
  | '?' :: cs => anyChar :: read cs
  | c :: cs => consLiteral c (read cs)
termination_by cs => cs.length
decreasing_by
  · have shorter := length_of_closingBrace? _closed
    simp only [List.length_cons]
    omega
  all_goals simp

/-- The name of the variable, if the token is one. -/
def name? : PatternToken → Option (List Char)
  | parameter name _ => some name
  | _ => none

/-- Whether the token is a variable constrained by a regular expression. -/
def isConstrained : PatternToken → Bool
  | parameter _ constraint => constraint.isSome
  | _ => false

end PatternToken

namespace PatternSegment

/-- The name in a segment `{*name}`, which holds no braces and is not empty. -/
def restName? : List Char → Option (List Char)
  | '{' :: '*' :: cs =>
    if cs.getLast? = some '}' then
      let name := cs.dropLast
      if name.isEmpty || name.contains '{' || name.contains '}' then none else some name
    else none
  | _ => none

/-- Reads what stands between two slashes of a pattern. -/
def read (part : List Char) : PatternSegment :=
  if part = ['*', '*'] then any
  else match restName? part with
    | some name => captureRest name
    | none => tokens (PatternToken.read part)

/-- The names of the variables in a segment, from left to right. -/
def names : PatternSegment → List (List Char)
  | tokens parts => parts.filterMap PatternToken.name?
  | any => []
  | captureRest name => [name]

/-- Whether a variable of the segment is constrained by a regular expression. -/
def isConstrained : PatternSegment → Bool
  | tokens parts => parts.any PatternToken.isConstrained
  | _ => false

end PatternSegment

namespace Pattern

/-- The pattern without blanks at its ends and with a leading slash. -/
def normalize (pattern : String) : String :=
  match Text.trim pattern.toList with
  | '/' :: cs => String.ofList ('/' :: cs)
  | cs => String.ofList ('/' :: cs)

/-- The segments of a pattern. -/
def segments (pattern : String) : List PatternSegment :=
  let body := match pattern.toList with
    | '/' :: cs => cs
    | cs => cs
  (body.splitOn '/').map PatternSegment.read

/-- The names of the variables of a pattern, from left to right. -/
def names (segments : List PatternSegment) : List (List Char) :=
  segments.flatMap PatternSegment.names

end Pattern
end RequestRouting
