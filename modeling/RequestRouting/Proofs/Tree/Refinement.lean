import Mathlib.Logic.Function.Basic
import RequestRouting.Proofs.Tree.Contents
import RequestRouting.Proofs.Tree.Paths

/-!
# A tree refines a map

A pattern tree is a way of storing a map from sequences of keys to lists of entries. `recorded` says
what this map is after a sequence of calls, and `Refines` ties a tree to it: each call keeps the tie
(`Refines.change`), so that it holds after every history. Everything that can be seen of the tree
follows from the map (`tree_of_history`).
-/

namespace RequestRouting
namespace PatternTree

variable {Entry : Type}

/-- A call that changes a tree. -/
inductive Change (Entry : Type) where
  | insert (chain : Chain) (entry : Entry)
  | remove (chain : Chain) (drop : Entry → Bool)
  | finalize

/-- The tree after a call. -/
def change (tree : PatternTree Entry) : Change Entry → PatternTree Entry
  | .insert chain entry => tree.insert chain entry
  | .remove chain drop => tree.remove chain drop
  | .finalize => tree.finalize

/-- The tree after a sequence of calls, which begins without nodes. -/
def after (history : List (Change Entry)) : PatternTree Entry :=
  history.foldl change empty

/-- What a call does to a map from keys to lists of entries: it adds an entry to one list, or
filters one list. -/
def Change.record (map : List String → List Entry) : Change Entry → List String → List Entry
  | .insert chain entry => Function.update map (keys chain) (map (keys chain) ++ [entry])
  | .remove chain drop => Function.update map (keys chain) ((map (keys chain)).filter (!drop ·))
  | .finalize => map

/-- The map after a sequence of calls, which begins with empty lists. -/
def recorded (history : List (Change Entry)) : List String → List Entry :=
  history.foldl Change.record fun _ => []

section

variable {tree : PatternTree Entry} {map : List String → List Entry}

/-- An insertion changes the list of one sequence of keys. -/
theorem entriesAt_insert (ordered : tree.root.Ordered) (chain : Chain) (entry : Entry) :
    (tree.insert chain entry).entriesAt =
      Function.update tree.entriesAt (keys chain) (tree.entriesAt (keys chain) ++ [entry]) := by
  funext sought
  refine (Node.entriesAt_insert entry ordered sought).trans ?_
  by_cases here : sought = keys chain
  · subst here
    rw [Function.update_self]
    exact if_pos rfl
  · rw [Function.update_of_ne here]
    exact if_neg here

/-- A removal changes the list of one sequence of keys. -/
theorem entriesAt_remove (tree : PatternTree Entry) (chain : Chain) (drop : Entry → Bool) :
    (tree.remove chain drop).entriesAt =
      Function.update tree.entriesAt (keys chain)
        ((tree.entriesAt (keys chain)).filter (!drop ·)) := by
  funext sought
  refine (Node.entriesAt_remove drop sought).trans ?_
  by_cases here : sought = keys chain
  · subst here
    rw [Function.update_self]
    exact if_pos rfl
  · rw [Function.update_of_ne here]
    exact if_neg here

/-- A tree in order whose entries are those of a map, and whose marks are right if it is said to be
finalized. -/
structure Refines (tree : PatternTree Entry) (map : List String → List Entry) : Prop where
  ordered : tree.root.Ordered
  marked : tree.finalized = true → tree.root.Marked
  entriesAt : tree.entriesAt = map
  /-- The root itself has no entries. -/
  root : map [] = []

theorem Refines.empty : Refines (empty : PatternTree Entry) fun _ => [] where
  ordered := .intro (Node.neat_new _) (by simp [PatternTree.empty, Node.new])
  marked _ := .intro rfl (by simp [PatternTree.empty, Node.new])
  entriesAt := funext (Node.entriesAt_new _)
  root := rfl

/-- A call changes a tree as it changes the map. -/
theorem Refines.change (refines : tree.Refines map) (call : Change Entry) :
    (tree.change call).Refines (call.record map) := by
  obtain ⟨ordered, marked, rfl, root⟩ := refines
  -- a chain has at least one segment, so that the list of the root is never changed
  have elsewhere : ∀ (chain : Chain) (entries : List Entry),
      Function.update tree.entriesAt (keys chain) entries [] = [] := by
    intro chain entries
    have some_key : [] ≠ keys chain := by simpa [keys] using chain.nonempty.symm
    rw [Function.update_of_ne some_key, root]
  cases call with
  | insert chain entry =>
      exact ⟨Node.ordered_insert ordered, fun finalized => Bool.noConfusion finalized,
        entriesAt_insert ordered chain entry, elsewhere chain _⟩
  | remove chain drop =>
      exact ⟨Node.ordered_remove ordered,
        fun finalized => Node.marked_remove ordered (marked finalized),
        entriesAt_remove tree chain drop, elsewhere chain _⟩
  | finalize =>
      exact ⟨Node.ordered_finalize ordered, fun _ => Node.marked_finalize _,
        funext (Node.entriesAt_finalize _), root⟩

/-! ## What the map tells of the tree -/

/-- A removal drops those entries of one list that it does not keep. -/
theorem Refines.removable (refines : tree.Refines map) (chain : Chain) (drop : Entry → Bool) :
    tree.removable chain drop + ((map (keys chain)).filter (!drop ·)).length =
      (map (keys chain)).length := by
  rw [PatternTree.removable, refines.entriesAt, ← List.countP_eq_length_filter]
  have total : (map (keys chain)).length = _ := List.length_eq_countP_add_countP drop
  simpa using total.symm

/-- Below the root there is a node exactly where a list that is not empty is stored, and on the way
there. -/
theorem Refines.isSome_at?_iff (refines : tree.Refines map) {keys : List String}
    (some_key : keys ≠ []) :
    (tree.root.at? keys).isSome ↔ ∃ whole, keys <+: whole ∧ map whole ≠ [] := by
  rw [← refines.entriesAt]
  exact Node.isSome_at?_iff refines.ordered some_key

/-- A node has the list of its keys, the primary entry first. -/
theorem Refines.list_of_node (refines : tree.Refines map) {keys : List String} {node : Node Entry}
    (leads : tree.root.at? keys = some node) :
    node.primary?.toList ++ node.siblings = map keys ∧ (node.primary? = none ↔ map keys = []) := by
  have entries : node.entries = map keys := by
    rw [← refines.entriesAt, PatternTree.entriesAt, leads]
  refine ⟨entries, ?_⟩
  rw [← entries]
  exact node.occupants.toList_eq_nil_iff.symm

/-- The nodes below the root are counted, and the entries of all lists. -/
theorem Refines.counts (refines : tree.Refines map) :
    ∃ prefixes : List (List String), prefixes.Nodup ∧
      (∀ keys, keys ∈ prefixes ↔ keys ≠ [] ∧ ∃ whole, keys <+: whole ∧ map whole ≠ []) ∧
      tree.nodeCount = prefixes.length ∧
      tree.entryCount = (prefixes.map fun keys => (map keys).length).sum := by
  refine ⟨tree.root.paths, Node.nodup_paths refines.ordered, ?_, (Node.length_paths _).symm, ?_⟩
  · intro keys
    rw [Node.mem_paths_iff refines.ordered]
    exact and_congr_right fun some_key => refines.isSome_at?_iff some_key
  · have total := Node.sum_entriesAt_paths refines.ordered
    have none : tree.root.entries = [] := by
      rw [← refines.root, ← refines.entriesAt]
      rfl
    rw [none, List.length_nil, Nat.zero_add] at total
    rw [← refines.entriesAt]
    exact total.symm

/-- The marks of a finalized tree are right. -/
theorem Refines.marks (refines : tree.Refines map) (finalized : tree.finalized = true) :
    tree.root.Everywhere fun node =>
      node.uncertain = true ↔ ∃ child ∈ node.children, child.segment.style ≠ .literal := by
  refine (refines.marked finalized).imp fun node mark => ?_
  have isUncertain : ∀ style : SegmentStyle, style.isUncertain = true ↔ style ≠ .literal := by
    intro style
    cases style <;> decide
  rw [mark, Node.anyUncertain, List.any_eq_true]
  simp only [isUncertain]

end

theorem Refines.changes {tree : PatternTree Entry} {map : List String → List Entry}
    (refines : tree.Refines map) (history : List (Change Entry)) :
    (history.foldl PatternTree.change tree).Refines (history.foldl Change.record map) := by
  induction history generalizing tree map with
  | nil => exact refines
  | cons call history ih => exact ih (refines.change call)

/-- After every history a tree refines the map that the history records. -/
theorem refines_after (history : List (Change Entry)) :
    (after history).Refines (recorded history) :=
  Refines.empty.changes history

/-- After every history a tree stores the map that the history records. Each call changes it as it
changes the map, and the nodes, their entries and marks, and what the tree counts are those of the
map. -/
theorem tree_of_history (history : List (Change Entry)) :
    let tree := after history
    let map := recorded history
    tree.entriesAt = map ∧ map [] = [] ∧
      (∀ call, (tree.change call).entriesAt = call.record map) ∧
      (∀ chain entry, (tree.insert chain entry).finalized = false) ∧
      (∀ chain drop, tree.removable chain drop + ((map (keys chain)).filter (!drop ·)).length =
        (map (keys chain)).length) ∧
      (∀ keys ≠ [], (tree.root.at? keys).isSome ↔ ∃ whole, keys <+: whole ∧ map whole ≠ []) ∧
      (∀ keys node, tree.root.at? keys = some node →
        node.primary?.toList ++ node.siblings = map keys ∧
          (node.primary? = none ↔ map keys = [])) ∧
      (∃ prefixes : List (List String), prefixes.Nodup ∧
        (∀ keys, keys ∈ prefixes ↔ keys ≠ [] ∧ ∃ whole, keys <+: whole ∧ map whole ≠ []) ∧
        tree.nodeCount = prefixes.length ∧
        tree.entryCount = (prefixes.map fun keys => (map keys).length).sum) ∧
      (tree.finalized = true → tree.root.Everywhere fun node =>
        node.uncertain = true ↔ ∃ child ∈ node.children, child.segment.style ≠ .literal) := by
  intro tree map
  have refines : tree.Refines map := refines_after history
  refine ⟨refines.entriesAt, refines.root, ?_, ?_, ?_, ?_, ?_, refines.counts, refines.marks⟩
  · intro call
    exact (refines.change call).entriesAt
  · intro chain entry
    rfl
  · intro chain drop
    exact refines.removable chain drop
  · intro keys some_key
    exact refines.isSome_at?_iff some_key
  · intro keys node leads
    exact refines.list_of_node leads

end PatternTree
end RequestRouting
