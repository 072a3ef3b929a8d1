import RequestRouting.Route.Basic
import RequestRouting.Tree.Basic

/-!
# Displaying a tree

Each node has a line of its own, below that of its parent and indented by two spaces. Literal
segments come first, then variables and wildcards; segments of one style ascend by their text.
-/

namespace RequestRouting

/-- How an entry is displayed in the line of its node. -/
def RouteEntry.label (entry : RouteEntry) : String :=
  entry.id.text ++ " " ++ entry.pattern.text

namespace Node

/-- Lists of lines in the order of the styles that they belong to. -/
def inStyleOrder (blocks : List (SegmentStyle × List String)) : List String :=
  SegmentStyle.all.flatMap fun style => (blocks.filter (·.1 == style)).flatMap (·.2)

/-- The line of a node. -/
def line (depth : Nat) (node : Node RouteEntry) : String :=
  let indent := String.ofList (List.replicate (depth * 2) ' ')
  let mark := if node.uncertain then " ~" else ""
  let labels := ", ".intercalate (node.entries.map (·.label))
  indent ++ node.segment.text ++ mark
    ++ (if node.entries.isEmpty then "" else " = " ++ labels) ++ "\n"

mutual
/-- The line of a node and those of the nodes below it. -/
def lines (depth : Nat) : Node RouteEntry → List String
  | ⟨segment, uncertain, occupants, children⟩ =>
    line depth ⟨segment, uncertain, occupants, children⟩
      :: inStyleOrder (blocks (depth + 1) children)

/-- The lines of several nodes, each with the style of its node. -/
def blocks (depth : Nat) : List (Node RouteEntry) → List (SegmentStyle × List String)
  | [] => []
  | node :: nodes => (node.segment.style, node.lines depth) :: blocks depth nodes
end

end Node

/-- The lines of all nodes below the root. -/
def PatternTree.display (tree : PatternTree RouteEntry) : String :=
  String.join (Node.inStyleOrder (Node.blocks 0 tree.root.children))

end RequestRouting
