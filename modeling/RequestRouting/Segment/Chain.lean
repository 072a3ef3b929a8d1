import RequestRouting.Segment.Basic
import RequestRouting.Text.Uppercase

/-!
# Chains

A method and a path are combined into one text, `/GET/users/5`, and read as a chain of
segments, the method first. The chain of a pattern holds canonical segments; the chain of a
request holds literal ones, so that `*` in a request is plain text.
-/

namespace RequestRouting

/-- The text `/METHOD/path`. The method is written in upper case, and a path that does not
begin with a slash gets one. -/
def combine (method path : String) : String :=
  let slashed := if path.toList.head? = some '/' then path.toList else '/' :: path.toList
  String.ofList ('/' :: Text.upper method.toList ++ slashed)

/-- The segments of tokens that stood between slashes. After a first token, an empty last one
means that the text ended with a slash, and becomes the root segment. -/
def segmentsOf (make : List Char → Segment) : List (List Char) → List Segment
  | [] => []
  | [token] => [make token]
  | [token, []] => [make token, .root]
  | token :: tokens => make token :: segmentsOf make tokens

theorem segmentsOf_ne_nil {make : List Char → Segment} {tokens : List (List Char)}
    (some_token : tokens ≠ []) : segmentsOf make tokens ≠ [] := by
  match tokens with
  | [] => exact absurd rfl some_token
  | [_] => simp [segmentsOf]
  | [_, []] => simp [segmentsOf]
  | [_, _ :: _] => simp [segmentsOf]
  | _ :: _ :: _ :: _ => simp [segmentsOf]

/-- A sequence of segments, of which there is at least one. -/
structure Chain where
  segments : List Segment
  nonempty : segments ≠ []
  deriving DecidableEq

namespace Chain

/-- The text after its leading slash, if it has one. -/
def body : List Char → List Char
  | '/' :: rest => rest
  | cs => cs

/-- The chain of the tokens of a combined text, each made into a segment by `make`. The text
`/` is a single root segment. -/
def split (make : List Char → Segment) (combined : String) : Chain :=
  if combined = "/" then ⟨[.root], by simp⟩
  else
    ⟨segmentsOf make ((body combined.toList).splitOn '/'),
      segmentsOf_ne_nil (List.splitOn_ne_nil _ _)⟩

/-- The chain of canonical segments of a combined text. -/
def create (combined : String) : Chain :=
  split Segment.ofToken combined

/-- The chain of a combined text in which every token is literal. -/
def createLiteral (combined : String) : Chain :=
  split Segment.literal combined

/-- The chain of a route pattern. -/
def ofPattern (method pattern : String) : Chain :=
  create (combine method pattern)

/-- The chain of a request path. -/
def ofRequest (method path : String) : Chain :=
  createLiteral (combine method path)

/-- The text of a chain: each segment after a slash, where the root segment is the slash
itself. -/
def display (chain : Chain) : String :=
  String.ofList <| chain.segments.flatMap fun segment =>
    if segment.isRoot then ['/'] else '/' :: segment.text.toList

end Chain

/-- A place in a chain: the segment there and those after it. -/
structure Cursor where
  position : Nat
  segment : Segment
  following : List Segment

namespace Cursor

/-- The places of segments that stand from `position` on. -/
def startingAt : Nat → List Segment → List Cursor
  | _, [] => []
  | position, segment :: following =>
    ⟨position, segment, following⟩ :: startingAt (position + 1) following

/-- Whether this is the last place. -/
def isLast (cursor : Cursor) : Bool :=
  cursor.following.isEmpty

/-- The place after this one. -/
def next? (cursor : Cursor) : Option Cursor :=
  match cursor.following with
  | [] => none
  | segment :: following => some ⟨cursor.position + 1, segment, following⟩

/-- This place and every later one, in order. -/
def remaining (cursor : Cursor) : List Cursor :=
  cursor :: startingAt (cursor.position + 1) cursor.following

end Cursor

/-- The place of the first segment of a chain. -/
def Chain.cursor (chain : Chain) : Cursor :=
  ⟨0, chain.segments.head chain.nonempty, chain.segments.tail⟩

end RequestRouting
