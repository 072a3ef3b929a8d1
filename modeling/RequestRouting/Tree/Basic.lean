import RequestRouting.Segment.Chain

/-!
# Pattern trees

A pattern tree holds entries below the segments of their chains: every node has the entries
whose chain ends there, in the order of their insertion. The first is the primary entry of the
node, and the next one takes its place when it goes. A node knows whether one of its children
matches more than its own text; this mark is only renewed when the tree is finalized or a child is
dropped.

The children of a node ascend by their keys, so that the order of insertion leaves no trace in
the shape of a tree.
-/

namespace RequestRouting

/-- The entries that end at one node: a primary one, and siblings beside it. -/
structure Occupants (Entry : Type) where
  primary? : Option Entry
  siblings : List Entry
  /-- There are no siblings without a primary entry. -/
  led : primary? = none → siblings = []

namespace Occupants

variable {Entry : Type}

/-- No entries. -/
def nobody : Occupants Entry :=
  ⟨none, [], fun _ => rfl⟩

/-- The primary entry and, after it, its siblings. -/
def toList (occupants : Occupants Entry) : List Entry :=
  occupants.primary?.toList ++ occupants.siblings

/-- Whether there are no entries. -/
def isEmpty (occupants : Occupants Entry) : Bool :=
  occupants.primary?.isNone && occupants.siblings.isEmpty

/-- One entry more, which is the primary one if there was none. -/
def add (entry : Entry) (occupants : Occupants Entry) : Occupants Entry :=
  match occupants.primary? with
  | none => ⟨some entry, [], by simp⟩
  | some primary => ⟨some primary, occupants.siblings ++ [entry], by simp⟩

/-- The occupants with the first sibling promoted if the primary entry is missing. -/
def promote : Option Entry → List Entry → Occupants Entry
  | some primary, siblings => ⟨some primary, siblings, by simp⟩
  | none, [] => nobody
  | none, sibling :: siblings => ⟨some sibling, siblings, by simp⟩

/-- The entries for which `drop` does not hold. -/
def dismiss (drop : Entry → Bool) (occupants : Occupants Entry) : Occupants Entry :=
  promote (occupants.primary?.filter (!drop ·)) (occupants.siblings.filter (!drop ·))

end Occupants

/-- A node of a pattern tree. -/
structure Node (Entry : Type) where
  segment : Segment
  /-- Whether a child was seen that is no literal segment. -/
  uncertain : Bool
  occupants : Occupants Entry
  children : List (Node Entry)

namespace Node

variable {Entry : Type}

/-- A node without entries and children. -/
def new (segment : Segment) : Node Entry :=
  ⟨segment, false, .nobody, []⟩

/-- The text by which the node is found below its parent. -/
def key (node : Node Entry) : String :=
  node.segment.text

/-- The child with a key. -/
def child? (node : Node Entry) (key : String) : Option (Node Entry) :=
  node.children.find? (·.key == key)

/-- The node below this one at the end of a sequence of keys. -/
def at? (node : Node Entry) : List String → Option (Node Entry)
  | [] => some node
  | key :: keys => (node.child? key).bind (·.at? keys)

/-- The primary entry. -/
def primary? (node : Node Entry) : Option Entry :=
  node.occupants.primary?

/-- The entries besides the primary one. -/
def siblings (node : Node Entry) : List Entry :=
  node.occupants.siblings

/-- All entries of the node itself. -/
def entries (node : Node Entry) : List Entry :=
  node.occupants.toList

/-- Whether the node holds nothing. -/
def isEmpty (node : Node Entry) : Bool :=
  node.occupants.isEmpty && node.children.isEmpty

/-- Whether one of some nodes is no literal segment. -/
def anyUncertain (nodes : List (Node Entry)) : Bool :=
  nodes.any (·.segment.style.isUncertain)

/-- Changes the child with the key of a segment, or adds one that is changed likewise. -/
def changeChild (segment : Segment) (change : Node Entry → Node Entry) :
    List (Node Entry) → List (Node Entry)
  | [] => [change (new segment)]
  | child :: children =>
    if child.key = segment.text then change child :: children
    else if segment.text < child.key then change (new segment) :: child :: children
    else child :: changeChild segment change children

/-- Adds an entry at the end of a sequence of segments. -/
def insert (entry : Entry) : List Segment → Node Entry → Node Entry
  | [], node => { node with occupants := node.occupants.add entry }
  | segment :: segments, node =>
    { node with children := changeChild segment (insert entry segments) node.children }

/-- Replaces the child with a key by what is left of it, which may be nothing. -/
def putChild (node : Node Entry) (key : String) (child : Node Entry) : Node Entry :=
  if child.isEmpty then
    let children := node.children.filter (·.key != key)
    { node with children, uncertain := anyUncertain children }
  else
    { node with children := node.children.map fun old => if old.key == key then child else old }

/-- Drops the entries for which `drop` holds from the end of a sequence of keys, and the nodes
that are left empty by that. -/
def remove (drop : Entry → Bool) : List String → Node Entry → Node Entry
  | [], node => { node with occupants := node.occupants.dismiss drop }
  | key :: keys, node =>
    match node.child? key with
    | none => node
    | some child => node.putChild key (remove drop keys child)

mutual
/-- The node with its mark and those of all nodes below it renewed. -/
def finalize : Node Entry → Node Entry
  | ⟨segment, _, occupants, children⟩ =>
    ⟨segment, anyUncertain children, occupants, finalizeAll children⟩

/-- Nodes with all their marks renewed. -/
def finalizeAll : List (Node Entry) → List (Node Entry)
  | [] => []
  | node :: nodes => node.finalize :: finalizeAll nodes
end

mutual
/-- The number of nodes below this one. -/
def nodeCount : Node Entry → Nat
  | ⟨_, _, _, children⟩ => nodeCountAll children

/-- The number of nodes, those below them included. -/
def nodeCountAll : List (Node Entry) → Nat
  | [] => 0
  | node :: nodes => node.nodeCount + 1 + nodeCountAll nodes
end

mutual
/-- The number of entries here and below. -/
def entryCount : Node Entry → Nat
  | ⟨_, _, occupants, children⟩ => occupants.toList.length + entryCountAll children

/-- The number of entries of several nodes and below them. -/
def entryCountAll : List (Node Entry) → Nat
  | [] => 0
  | node :: nodes => node.entryCount + entryCountAll nodes
end

end Node

/-- A tree of entries below the segments of chains, the method first. -/
structure PatternTree (Entry : Type) where
  root : Node Entry
  /-- Whether nothing was inserted since the marks were renewed. -/
  finalized : Bool

namespace PatternTree

variable {Entry : Type}

/-- The tree without nodes. -/
def empty : PatternTree Entry :=
  ⟨.new .root, true⟩

/-- Adds an entry at the end of a chain. -/
def insert (tree : PatternTree Entry) (chain : Chain) (entry : Entry) : PatternTree Entry :=
  ⟨tree.root.insert entry chain.segments, false⟩

/-- The keys of a chain. -/
def keys (chain : Chain) : List String :=
  chain.segments.map (·.text)

/-- Drops the entries for which `drop` holds from the end of a chain. -/
def remove (tree : PatternTree Entry) (chain : Chain) (drop : Entry → Bool) :
    PatternTree Entry :=
  { tree with root := tree.root.remove drop (keys chain) }

/-- The entries at the end of a sequence of keys. -/
def entriesAt (tree : PatternTree Entry) (keys : List String) : List Entry :=
  match tree.root.at? keys with
  | some node => node.entries
  | none => []

/-- The number of entries that `remove` drops. -/
def removable (tree : PatternTree Entry) (chain : Chain) (drop : Entry → Bool) : Nat :=
  (tree.entriesAt (keys chain)).countP drop

/-- Renews the marks of all nodes. A tree is searched in this state only. -/
def finalize (tree : PatternTree Entry) : PatternTree Entry :=
  ⟨tree.root.finalize, true⟩

/-- The number of nodes below the root. -/
def nodeCount (tree : PatternTree Entry) : Nat :=
  tree.root.nodeCount

/-- The number of entries. -/
def entryCount (tree : PatternTree Entry) : Nat :=
  tree.root.entryCount

/-- Whether the tree has no nodes. -/
def isEmpty (tree : PatternTree Entry) : Bool :=
  tree.root.children.isEmpty

end PatternTree
end RequestRouting
