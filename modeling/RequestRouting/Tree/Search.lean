import RequestRouting.Route.Selection
import RequestRouting.Tree.Basic

/-!
# Searching a tree

A request is walked down a tree segment by segment. At each node the literal child is tried
first, then the variable, the wildcard and the multi-segment wildcard, and a walk that ends at
no matching route goes back to try the next. The first node with a matching route decides.

Two shortcuts save work: below a node that is not marked uncertain only the literal child is
tried, and a route that did not match once is not evaluated again.
-/

namespace RequestRouting

/-- How a part of a search ended: at candidates, or with the routes that did not match. -/
inductive Walk where
  | found (candidates : List Candidate)
  | missed (rejected : List RouteId)

/-- Goes on with another part if this one found nothing. -/
def Walk.orElse (walk : Walk) (next : List RouteId → Walk) : Walk :=
  match walk with
  | found candidates => found candidates
  | missed rejected => next rejected

namespace Node

/-- Evaluates the routes that end at a node, without those rejected before. -/
def validate (evaluate : List RouteEntry → List Candidate) (node : Node RouteEntry)
    (rejected : List RouteId) : Walk :=
  match evaluate (node.entries.filter fun entry => !rejected.contains entry.id) with
  | [] => .missed (node.entries.foldl (fun rejected entry => rejected.insert entry.id) rejected)
  | candidates => .found candidates

/-- Ends a walk at a node: with its routes, or with those of a child `**`, which then matches
no segment. -/
def terminal (evaluate : List RouteEntry → List Candidate) (node : Node RouteEntry)
    (rejected : List RouteId) : Walk :=
  (node.validate evaluate rejected).orElse fun rejected =>
    match node.child? Segment.doubleWildcard.text with
    | some trailing => trailing.validate evaluate rejected
    | none => .missed rejected

/-- The key of the child of a style that is tried for a segment, if one is tried. A variable
takes at least one character. -/
def probe? (style : SegmentStyle) (segment : Segment) : Option String :=
  match style with
  | .literal => some segment.text
  | .parameter =>
    if segment.isRoot || segment.text.isEmpty then none else some Segment.parameter.text
  | .wildcard => some Segment.wildcard.text
  | .doubleWildcard => some Segment.doubleWildcard.text

mutual
/-- Matches the segment at a cursor with the children of a node. -/
def search (evaluate : List RouteEntry → List Candidate) (cursor : Cursor)
    (rejected : List RouteId) : Node RouteEntry → Walk
  | ⟨_, uncertain, _, children⟩ =>
    (searchStyle evaluate .literal cursor rejected children).orElse fun rejected =>
      if uncertain then
        (searchStyle evaluate .parameter cursor rejected children).orElse fun rejected =>
          (searchStyle evaluate .wildcard cursor rejected children).orElse fun rejected =>
            searchStyle evaluate .doubleWildcard cursor rejected children
      else .missed rejected

/-- Matches the segment at a cursor with the child that has the key of a style. A
multi-segment wildcard takes this segment and any number of those after it, and the walk goes
on below it from the first place that leads to a match. -/
def searchStyle (evaluate : List RouteEntry → List Candidate) (style : SegmentStyle)
    (cursor : Cursor) (rejected : List RouteId) : List (Node RouteEntry) → Walk
  | [] => .missed rejected
  | child :: children =>
    if probe? style cursor.segment = some child.key then
      if style = .doubleWildcard then
        let atEnd := if cursor.isLast then child.terminal evaluate rejected else .missed rejected
        let below := cursor.remaining.foldl (fun walk resumed =>
          walk.orElse fun rejected => child.search evaluate resumed rejected) atEnd
        below.orElse fun rejected => child.terminal evaluate rejected
      else
        match cursor.next? with
        | none => child.terminal evaluate rejected
        | some next => child.search evaluate next rejected
    else searchStyle evaluate style cursor rejected children
end

end Node

/-- The outcome of searching a tree for a request, if a route of the tree matches it. -/
def PatternTree.lookup? (tree : PatternTree RouteEntry) (chain : Chain) (request : Request)
    (path : String) : Option MatchResult :=
  match tree.root.search (candidates request path) chain.cursor [] with
  | .found found => some (select request .tree Candidate.compareConditions found)
  | .missed _ => none

end RequestRouting
