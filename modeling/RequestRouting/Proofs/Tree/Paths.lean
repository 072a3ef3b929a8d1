import Mathlib.Algebra.GroupWithZero.Nat
import RequestRouting.Proofs.Tree.Entries

/-!
# The nodes of a tree

A node is where the keys on the way to it lead. In a tree in order these ways are all different
(`nodup_paths`), and they are the beginnings of the keys that lead to entries
(`isSome_at?_iff`): no node is left where nothing is held, and none is missing. What the tree counts
are these ways and the entries at their ends (`length_paths`, `sum_entriesAt_paths`).
-/

namespace RequestRouting
namespace Node

variable {Entry : Type} {node : Node Entry}

mutual
/-- The keys that lead to the nodes below a node, for each of them. -/
def paths : Node Entry → List (List String)
  | ⟨_, _, _, children⟩ => pathsAll children

/-- The keys that lead to some nodes and to those below them. -/
def pathsAll : List (Node Entry) → List (List String)
  | [] => []
  | node :: nodes => [node.key] :: node.paths.map (node.key :: ·) ++ pathsAll nodes
end

theorem paths_eq (node : Node Entry) :
    node.paths =
      node.children.flatMap fun child => [child.key] :: child.paths.map (child.key :: ·) := by
  obtain ⟨segment, uncertain, occupants, children⟩ := node
  rw [paths]
  induction children with
  | nil => rfl
  | cons child children ih => rw [pathsAll, ih, List.flatMap_cons]

theorem nodeCount_eq (node : Node Entry) :
    node.nodeCount = (node.children.map fun child => child.nodeCount + 1).sum := by
  obtain ⟨segment, uncertain, occupants, children⟩ := node
  rw [nodeCount]
  induction children with
  | nil => rfl
  | cons child children ih => rw [nodeCountAll, ih, List.map_cons, List.sum_cons]

theorem entryCount_eq (node : Node Entry) :
    node.entryCount = node.entries.length + (node.children.map entryCount).sum := by
  obtain ⟨segment, uncertain, occupants, children⟩ := node
  rw [entryCount]
  congr 1
  induction children with
  | nil => rfl
  | cons child children ih => rw [entryCountAll, ih, List.map_cons, List.sum_cons]

/-! ## Where keys lead -/

theorem at?_append (node : Node Entry) (keys more : List String) :
    node.at? (keys ++ more) = (node.at? keys).bind (·.at? more) := by
  induction keys generalizing node with
  | nil => rfl
  | cons key keys ih =>
      simp only [List.cons_append, at?]
      cases node.child? key with
      | none => rfl
      | some child => exact ih child

theorem entriesAt_append {found : Node Entry} {keys : List String}
    (leads : node.at? keys = some found) (more : List String) :
    node.entriesAt (keys ++ more) = found.entriesAt more := by
  rw [entriesAt, entriesAt, at?_append, leads, Option.bind_some]

/-- What is everywhere below a node is where keys lead. -/
theorem Everywhere.at? {P : Node Entry → Prop} {found : Node Entry} {keys : List String}
    (everywhere : Everywhere P node) (leads : node.at? keys = some found) :
    Everywhere P found := by
  induction keys generalizing node with
  | nil =>
      obtain rfl : node = found := Option.some.inj leads
      exact everywhere
  | cons key keys ih =>
      obtain ⟨child, here, below⟩ := Option.bind_eq_some_iff.1 leads
      exact ih (everywhere.child (mem_of_child? here)) below

/-- A node to which keys lead is occupied. -/
theorem isEmpty_of_at? (ordered : Ordered node) {found : Node Entry} {keys : List String}
    (some_key : keys ≠ []) (leads : node.at? keys = some found) : found.isEmpty = false := by
  induction keys generalizing node with
  | nil => exact absurd rfl some_key
  | cons key keys ih =>
      obtain ⟨child, here, below⟩ := Option.bind_eq_some_iff.1 leads
      have member := mem_of_child? here
      by_cases last : keys = []
      · obtain rfl : child = found := by simpa [last, Node.at?] using below
        exact ordered.here.occupied child member
      · exact ih (ordered.child member) last below

/-- Below a node in order keys lead somewhere exactly if they begin those of an entry. -/
theorem isSome_at?_iff (ordered : Ordered node) {keys : List String} (some_key : keys ≠ []) :
    (node.at? keys).isSome ↔ ∃ whole, keys <+: whole ∧ node.entriesAt whole ≠ [] := by
  constructor
  · intro leads
    obtain ⟨found, leads⟩ := Option.isSome_iff_exists.1 leads
    obtain ⟨more, some⟩ :=
      exists_entriesAt_ne_nil (ordered.at? leads) (isEmpty_of_at? ordered some_key leads)
    exact ⟨keys ++ more, List.prefix_append .., by rwa [entriesAt_append leads]⟩
  · rintro ⟨whole, ⟨more, rfl⟩, some⟩
    cases leads : node.at? keys with
    | some found => rfl
    | none =>
        rw [entriesAt, at?_append, leads] at some
        exact absurd rfl some

/-! ## Counting -/

theorem length_paths (node : Node Entry) : node.paths.length = node.nodeCount := by
  induction node using child_induction with
  | inherit node ih =>
      rw [paths_eq, nodeCount_eq, List.length_flatMap]
      refine congrArg List.sum (List.map_congr_left fun child member => ?_)
      rw [List.length_cons, List.length_map, ih child member]

theorem mem_paths_iff (ordered : Ordered node) {keys : List String} :
    keys ∈ node.paths ↔ keys ≠ [] ∧ (node.at? keys).isSome := by
  induction node using child_induction generalizing keys with
  | inherit node ih =>
      rw [paths_eq, List.mem_flatMap]
      cases keys with
      | nil => simp
      | cons key keys =>
          constructor
          · rintro ⟨child, member, path⟩
            have leads : key = child.key ∧ (child.at? keys).isSome := by
              rcases List.mem_cons.1 path with single | longer
              · obtain ⟨rfl, rfl⟩ := List.cons.inj single
                exact ⟨rfl, rfl⟩
              · obtain ⟨rest, restMember, same⟩ := List.mem_map.1 longer
                obtain ⟨rfl, rfl⟩ := List.cons.inj same
                exact ⟨rfl, ((ih child member (ordered.child member)).1 restMember).2⟩
            refine ⟨List.cons_ne_nil _ _, ?_⟩
            rw [leads.1, at?, ordered.here.child?_key member]
            exact leads.2
          · rintro ⟨-, leads⟩
            obtain ⟨found, leads⟩ := Option.isSome_iff_exists.1 leads
            obtain ⟨child, here, below⟩ := Option.bind_eq_some_iff.1 leads
            have member := mem_of_child? here
            obtain rfl := key_of_child? here
            refine ⟨child, member, ?_⟩
            by_cases last : keys = []
            · rw [last]
              exact List.mem_cons_self
            · refine List.mem_cons_of_mem _ (List.mem_map_of_mem ?_)
              exact (ih child member (ordered.child member)).2
                ⟨last, Option.isSome_iff_exists.2 ⟨found, below⟩⟩

/-- In a tree in order no two nodes are at the end of the same keys. -/
theorem nodup_paths (ordered : Ordered node) : node.paths.Nodup := by
  induction node using child_induction with
  | inherit node ih =>
      rw [paths_eq, List.nodup_flatMap]
      constructor
      · intro child member
        have below := ih child member (ordered.child member)
        refine List.nodup_cons.2 ⟨?_, below.map fun a b same => (List.cons.inj same).2⟩
        intro inside
        obtain ⟨rest, restMember, same⟩ := List.mem_map.1 inside
        obtain ⟨-, rfl⟩ := List.cons.inj same
        exact ((mem_paths_iff (ordered.child member)).1 restMember).1 rfl
      · -- paths below different children begin with different keys
        have first : ∀ {child : Node Entry} {path : List String},
            path ∈ [child.key] :: child.paths.map (child.key :: ·) →
              path.head? = some child.key := by
          intro child path member
          rcases List.mem_cons.1 member with rfl | later
          · rfl
          · obtain ⟨rest, -, rfl⟩ := List.mem_map.1 later
            rfl
        refine ordered.here.ascending.imp fun {a b} before path inA inB => ?_
        have same := (first inA).symm.trans (first inB)
        exact absurd (Option.some.inj same) (ne_of_lt before)

/-- The entries that are counted are those at the ends of all paths and those of the node itself. -/
theorem sum_entriesAt_paths (ordered : Ordered node) :
    node.entries.length + (node.paths.map fun keys => (node.entriesAt keys).length).sum =
      node.entryCount := by
  induction node using child_induction with
  | inherit node ih =>
      rw [paths_eq, entryCount_eq, List.map_flatMap]
      congr 1
      rw [List.flatMap_def, List.sum_flatten, List.map_map]
      refine congrArg List.sum (List.map_congr_left fun child member => ?_)
      have below : ∀ keys, node.entriesAt (child.key :: keys) = child.entriesAt keys :=
        fun keys => ordered.here.entriesAt_child member keys
      rw [← ih child member (ordered.child member)]
      simp [below, Function.comp_def]

end Node
end RequestRouting
