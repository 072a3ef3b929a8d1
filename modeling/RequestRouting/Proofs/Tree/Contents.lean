import RequestRouting.Proofs.Segment.Chain
import RequestRouting.Proofs.Tree.Entries

/-!
# What a tree of routes holds

A tree holds a list of entries (`Holds`) if it is in order and has, at the end of each sequence
of keys, those of the list whose chain has these keys, in their order. Two trees that hold the
same list are equal once their marks are renewed (`Holds.finalize_eq`).
-/

namespace RequestRouting

/-- The chain below which a tree has an entry. -/
def RouteEntry.chain (entry : RouteEntry) : Chain :=
  .ofPattern entry.method.name entry.pattern.text

/-- Whether a tree can index the pattern of an entry. -/
def RouteEntry.isIndexed (entry : RouteEntry) : Bool :=
  isIndexable entry.pattern.text

namespace PatternTree

@[simp] theorem root_insert {Entry : Type} (tree : PatternTree Entry) (chain : Chain)
    (entry : Entry) : (tree.insert chain entry).root = tree.root.insert entry chain.segments := rfl

@[simp] theorem finalized_remove {Entry : Type} (tree : PatternTree Entry) (chain : Chain)
    (drop : Entry → Bool) : (tree.remove chain drop).finalized = tree.finalized := rfl

@[simp] theorem root_remove {Entry : Type} (tree : PatternTree Entry) (chain : Chain)
    (drop : Entry → Bool) :
    (tree.remove chain drop).root = tree.root.remove drop (keys chain) := rfl

/-- The tree that is built from scratch for a list of entries. -/
def ofEntries (entries : List RouteEntry) : PatternTree RouteEntry :=
  (entries.foldl (fun tree entry => tree.insert entry.chain entry) empty).finalize

/-- A tree in order that has exactly these entries below their chains. -/
structure Holds (tree : PatternTree RouteEntry) (entries : List RouteEntry) : Prop where
  root : tree.root.segment = .root
  ordered : tree.root.Ordered
  canonical : tree.root.Canonical
  entriesAt : ∀ keys,
    tree.entriesAt keys = entries.filter fun entry => PatternTree.keys entry.chain = keys

theorem Holds.empty : Holds empty [] where
  root := rfl
  ordered := .intro (Node.neat_new _) (by simp [PatternTree.empty, Node.new])
  canonical :=
    .intro (by simp [PatternTree.empty, Node.new]) (by simp [PatternTree.empty, Node.new])
  entriesAt := Node.entriesAt_new _

variable {tree other : PatternTree RouteEntry} {entries : List RouteEntry}

theorem Holds.entriesAt_root (holds : tree.Holds entries) (keys : List String) :
    tree.root.entriesAt keys =
      entries.filter fun entry => PatternTree.keys entry.chain = keys :=
  holds.entriesAt keys

theorem Holds.mem_entriesAt_root (holds : tree.Holds entries) {keys : List String}
    {entry : RouteEntry} :
    entry ∈ tree.root.entriesAt keys ↔ entry ∈ entries ∧ PatternTree.keys entry.chain = keys := by
  rw [holds.entriesAt_root, List.mem_filter, decide_eq_true_eq]

theorem Holds.insert (holds : tree.Holds entries) (entry : RouteEntry) :
    (tree.insert entry.chain entry).Holds (entries ++ [entry]) where
  root := by simpa using holds.root
  ordered := by
    rw [root_insert]
    exact Node.ordered_insert holds.ordered
  canonical := by
    rw [root_insert]
    exact Node.canonical_insert (fun _ => isCanonical_of_mem_ofPattern) holds.canonical
  entriesAt keys := by
    show (tree.insert entry.chain entry).root.entriesAt keys = _
    rw [root_insert, Node.entriesAt_insert entry holds.ordered keys, holds.entriesAt_root,
      List.filter_append]
    by_cases same : PatternTree.keys entry.chain = keys
    · simp [same, show List.map (·.text) entry.chain.segments = keys from same]
    · simp [same, show ¬keys = List.map (·.text) entry.chain.segments from fun h => same h.symm]

theorem Holds.insertAll (holds : tree.Holds entries) (more : List RouteEntry) :
    (more.foldl (fun tree entry => tree.insert entry.chain entry) tree).Holds
      (entries ++ more) := by
  induction more generalizing tree entries with
  | nil => simpa using holds
  | cons entry more ih => simpa using ih (holds.insert entry)

theorem Holds.remove (holds : tree.Holds entries) (chain : Chain) (drop : RouteEntry → Bool) :
    (tree.remove chain drop).Holds
      (entries.filter fun entry => !(decide (keys entry.chain = keys chain) && drop entry)) where
  root := by simpa using holds.root
  ordered := Node.ordered_remove holds.ordered
  canonical := Node.canonical_remove holds.canonical
  entriesAt sought := by
    -- the entries at the end of the chain are filtered twice, all others once
    refine (Node.entriesAt_remove drop sought).trans ?_
    rw [holds.entriesAt_root]
    split
    · subst sought
      rw [List.filter_filter, List.filter_filter]
      refine List.filter_congr fun entry _ => ?_
      by_cases same : keys entry.chain = keys chain <;> simp [same]
    · rename_i different
      rw [List.filter_filter]
      refine List.filter_congr fun entry _ => ?_
      by_cases same : keys entry.chain = sought <;> simp [same, different]

theorem Holds.finalize (holds : tree.Holds entries) : tree.finalize.Holds entries where
  root := by simpa [PatternTree.finalize] using holds.root
  ordered := Node.ordered_finalize holds.ordered
  canonical := Node.canonical_finalize holds.canonical
  entriesAt keys := (Node.entriesAt_finalize _ keys).trans (holds.entriesAt keys)

/-- Up to its marks, a tree is determined by what it holds. -/
theorem Holds.finalize_eq (holds : tree.Holds entries) (holds' : other.Holds entries) :
    tree.finalize = other.finalize := by
  have sameRoot : tree.root.finalize = other.root.finalize :=
    Node.finalize_eq_of_entriesAt holds.ordered holds.canonical holds'.ordered holds'.canonical
      (holds.root.trans holds'.root.symm)
      fun keys => (holds.entriesAt keys).trans (holds'.entriesAt keys).symm
  simp [PatternTree.finalize, sameRoot]

/-- A tree that holds a list of entries is, up to its marks, the one built from scratch. -/
theorem Holds.finalize_eq_ofEntries (holds : tree.Holds entries) :
    tree.finalize = ofEntries entries :=
  holds.finalize_eq (Holds.empty.insertAll entries)

/-- All nodes of a tree have entries of the list only. -/
theorem Holds.everywhere (holds : tree.Holds entries) :
    tree.root.Everywhere fun node => ∀ entry ∈ node.entries, entry ∈ entries := by
  refine Node.everywhere_of_entriesAt holds.ordered fun keys entry member => ?_
  exact (holds.mem_entriesAt_root.1 member).1

end PatternTree
end RequestRouting
