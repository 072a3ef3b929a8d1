import RequestRouting.Proofs.Tree.Structure

/-!
# A tree as a map from keys to entries

`entriesAt` is all that can be asked of a tree: an insertion adds an entry at the end of one
sequence of keys (`entriesAt_insert`), a removal drops entries there (`entriesAt_remove`), and
nothing else changes. Conversely a tree in order is determined by its entries up to its marks
(`finalize_eq_of_entriesAt`), so that its history leaves no trace in it.
-/

namespace RequestRouting
namespace Node

variable {Entry : Type}

/-- The entries at the end of a sequence of keys. -/
def entriesAt (node : Node Entry) (keys : List String) : List Entry :=
  match node.at? keys with
  | some found => found.entries
  | none => []

@[simp] theorem entriesAt_nil (node : Node Entry) : node.entriesAt [] = node.entries := rfl

theorem entriesAt_cons (node : Node Entry) (key : String) (keys : List String) :
    node.entriesAt (key :: keys) =
      match node.child? key with
      | some child => child.entriesAt keys
      | none => [] := by
  cases found : node.child? key <;> simp [entriesAt, at?, found]

/-- The entries below a node depend on its children only. -/
theorem entriesAt_cons_congr {node other : Node Entry} {key : String}
    (same : node.child? key = other.child? key) (keys : List String) :
    node.entriesAt (key :: keys) = other.entriesAt (key :: keys) := by
  rw [entriesAt_cons, entriesAt_cons, same]

theorem entriesAt_of_isEmpty {node : Node Entry} (empty : node.isEmpty = true)
    (keys : List String) : node.entriesAt keys = [] := by
  simp only [isEmpty_eq, Bool.and_eq_true, List.isEmpty_iff] at empty
  cases keys with
  | nil => exact empty.1
  | cons key keys => simp [entriesAt_cons, child?, empty.2]

theorem entriesAt_new (segment : Segment) (keys : List String) :
    (new segment : Node Entry).entriesAt keys = [] :=
  entriesAt_of_isEmpty rfl keys

/-- A child of a node in order is found by its key. -/
theorem Neat.child?_key {node child : Node Entry} (neat : Neat node)
    (member : child ∈ node.children) : node.child? child.key = some child := by
  cases found : node.child? child.key with
  | none =>
      have missing := List.find?_eq_none.1 found child member
      simp at missing
  | some other =>
      rw [neat.eq_of_key (mem_of_child? found) member (key_of_child? found)]

theorem Neat.entriesAt_child {node child : Node Entry} (neat : Neat node)
    (member : child ∈ node.children) (keys : List String) :
    node.entriesAt (child.key :: keys) = child.entriesAt keys := by
  rw [entriesAt_cons, neat.child?_key member]

/-! ## Insertion -/

/-- A change of one child is seen at its key only. -/
theorem find?_changeChild (segment : Segment) {change : Node Entry → Node Entry}
    (sameKey : ∀ node, (change node).key = node.key) {children : List (Node Entry)}
    (ascending : children.Pairwise fun a b => a.key < b.key) (key : String) :
    (changeChild segment change children).find? (·.key == key) =
      if key = segment.text then
        some (change ((children.find? (·.key == segment.text)).getD (new segment)))
      else children.find? (·.key == key) := by
  induction children with
  | nil =>
      by_cases same : key = segment.text
      · simp [changeChild, sameKey, same]
      · have : segment.text ≠ key := fun h => same h.symm
        simp [changeChild, sameKey, same, this]
  | cons first others ih =>
      obtain ⟨before, ascendingOthers⟩ := List.pairwise_cons.1 ascending
      have ih := ih ascendingOthers
      simp only [changeChild]
      split
      · rename_i found
        by_cases same : key = segment.text
        · simp [sameKey, found, same]
        · have : first.key ≠ key := fun h => same (h.symm.trans found)
          simp [sameKey, same, this]
      · rename_i different
        split
        · rename_i smaller
          -- all children have larger keys, so that none of them is the one that is looked for
          have missing : (first :: others).find? (·.key == segment.text) = none := by
            refine List.find?_eq_none.2 fun child member => ?_
            have larger : segment.text < child.key := by
              rcases List.mem_cons.1 member with rfl | member
              · exact smaller
              · exact smaller.trans (before child member)
            simpa using larger.ne'
          by_cases same : key = segment.text
          · simp [missing, same, sameKey]
          · have : segment.text ≠ key := fun h => same h.symm
            simp [sameKey, same, this]
        · by_cases same : first.key = key
          · have : key ≠ segment.text := fun h => different (same.trans h)
            simp [same, this]
          · by_cases found : key = segment.text
            · subst found
              simpa [List.find?_cons, same] using ih
            · simpa [List.find?_cons, same, found] using ih

/-- An insertion adds the entry at the end of its own keys. -/
theorem entriesAt_insert (entry : Entry) {segments : List Segment} {node : Node Entry}
    (ordered : Ordered node) (keys : List String) :
    (node.insert entry segments).entriesAt keys =
      if keys = segments.map (·.text) then node.entriesAt keys ++ [entry]
      else node.entriesAt keys := by
  induction segments generalizing node keys with
  | nil =>
      cases keys with
      | nil => simp [insert, entries]
      | cons key keys => simpa using entriesAt_cons_congr (by rfl) keys
  | cons segment segments ih =>
      cases keys with
      | nil => simp [insert, entries]
      | cons key keys =>
          have found := find?_changeChild segment (key_insert entry segments)
            ordered.here.ascending key
          rw [entriesAt_cons, entriesAt_cons]
          unfold child?
          rw [insert, found]
          by_cases same : key = segment.text
          · -- below the changed child the insertion is that of the segments to come
            subst same
            have old : ∀ child ∈ node.children, Ordered child := fun child => ordered.child
            cases here : node.children.find? (·.key == segment.text) with
            | none =>
                have fresh : Ordered (new segment : Node Entry) :=
                  .intro (neat_new segment) (by simp [new])
                have := ih fresh keys
                simpa [entriesAt_new] using this
            | some child => simpa using ih (old child (List.mem_of_find?_eq_some here)) keys
          · simp [same]

/-! ## Removal -/

theorem child?_putChild {node child : Node Entry} {key : String} (sameKey : child.key = key)
    (found : (node.child? key).isSome) (other : String) :
    (node.putChild key child).child? other =
      if other = key then (if child.isEmpty then none else some child)
      else node.child? other := by
  unfold putChild child?
  by_cases empty : child.isEmpty = true
  · simp only [empty, ↓reduceIte]
    split
    · subst other
      simp [List.find?_filter]
    · rename_i different
      rw [List.find?_filter]
      refine congrArg (List.find? · node.children) (funext fun node => ?_)
      by_cases same : node.key = other <;> simp [same, different]
  · simp only [empty, Bool.false_eq_true, ↓reduceIte, List.find?_map]
    have replaced : (fun old : Node Entry => (if old.key == key then child else old).key == other) =
        fun old => old.key == other := by
      funext old
      by_cases same : old.key = key <;> simp [same, sameKey]
    rw [show ((fun node : Node Entry => node.key == other) ∘
      fun old => if (old.key == key) = true then child else old) =
        fun old => old.key == other from replaced]
    split
    · subst other
      cases here : node.children.find? (·.key == key) with
      | none => simp [child?, here] at found
      | some old =>
          have := List.find?_some here
          simp_all
    · rename_i different
      cases here : node.children.find? (·.key == other) with
      | none => rfl
      | some old =>
          have : old.key = other := by simpa using List.find?_some here
          simp [this, different]

/-- A removal drops entries at the end of its own keys. A node that is left empty had no
entries below it, so that nothing else is lost with it. -/
theorem entriesAt_remove (drop : Entry → Bool) {dropKeys : List String} {node : Node Entry}
    (keys : List String) :
    (node.remove drop dropKeys).entriesAt keys =
      if keys = dropKeys then (node.entriesAt keys).filter (!drop ·) else node.entriesAt keys := by
  induction dropKeys generalizing node keys with
  | nil =>
      cases keys with
      | nil => simp [remove, entries]
      | cons key keys => simpa using entriesAt_cons_congr (by rfl) keys
  | cons dropKey dropKeys ih =>
      cases found : node.child? dropKey with
      | none =>
          simp only [remove, found]
          split
          · subst keys
            simp [entriesAt_cons, found]
          · rfl
      | some child =>
          simp only [remove, found]
          cases keys with
          | nil => simp
          | cons key keys =>
              have sameKey : (child.remove drop dropKeys).key = dropKey := by
                simp [key_of_child? found]
              rw [entriesAt_cons, entriesAt_cons, child?_putChild sameKey (by simp [found])]
              by_cases same : key = dropKey
              · subst same
                simp only [↓reduceIte, found, List.cons.injEq, true_and]
                rw [← ih keys]
                -- the child is gone if nothing is left of it, and then it has no entries either
                split
                · rename_i h
                  split at h <;> simp_all
                · rename_i h
                  split at h
                  · rename_i empty
                    exact (entriesAt_of_isEmpty empty keys).symm
                  · simp at h
              · simp [same]

/-! ## Marks, and what determines a tree -/

theorem child?_finalize (node : Node Entry) (key : String) :
    node.finalize.child? key = (node.child? key).map finalize := by
  unfold child?
  rw [children_finalize, List.find?_map]
  simp only [Function.comp_def, key_finalize]

@[simp] theorem entriesAt_finalize (node : Node Entry) (keys : List String) :
    node.finalize.entriesAt keys = node.entriesAt keys := by
  induction keys generalizing node with
  | nil => simp
  | cons key keys ih =>
      rw [entriesAt_cons, entriesAt_cons, child?_finalize]
      cases node.child? key <;> simp [ih]

/-- What holds of the entries at the end of all keys holds of those of every node. -/
theorem everywhere_entries {Q : List Entry → Prop} {node : Node Entry} (ordered : Ordered node)
    (all : ∀ keys, Q (node.entriesAt keys)) : Everywhere (fun node => Q node.entries) node := by
  induction node using child_induction with
  | inherit node ih =>
      refine .intro (all []) fun child member => ih child member (ordered.child member) ?_
      intro keys
      rw [← ordered.here.entriesAt_child member]
      exact all _

/-- What holds of all entries that can be asked for holds of the entries of every node. -/
theorem everywhere_of_entriesAt {U : Entry → Prop} {node : Node Entry} (ordered : Ordered node)
    (all : ∀ keys, ∀ entry ∈ node.entriesAt keys, U entry) :
    Everywhere (fun node => ∀ entry ∈ node.entries, U entry) node :=
  everywhere_entries (Q := fun entries => ∀ entry ∈ entries, U entry) ordered all

/-- An occupied node in order has entries at the end of some keys. -/
theorem exists_entriesAt_ne_nil {node : Node Entry} (ordered : Ordered node)
    (occupied : node.isEmpty = false) : ∃ keys, node.entriesAt keys ≠ [] := by
  induction node using child_induction with
  | inherit node ih =>
      by_cases entries : node.entries = []
      · obtain ⟨child, member⟩ := List.exists_mem_of_ne_nil node.children
          (by simp_all [isEmpty_eq])
        obtain ⟨keys, some⟩ :=
          ih child member (ordered.child member) (ordered.here.occupied child member)
        exact ⟨child.key :: keys, by rwa [ordered.here.entriesAt_child member]⟩
      · exact ⟨[], entries⟩

/-- Of two nodes with the same entries below, each child of one has its like below the other. -/
theorem exists_like_child {node other : Node Entry} (ordered : Ordered node)
    (same : ∀ keys, node.entriesAt keys = other.entriesAt keys) {child : Node Entry}
    (member : child ∈ node.children) :
    ∃ like ∈ other.children, like.key = child.key ∧
      ∀ keys, child.entriesAt keys = like.entriesAt keys := by
  have below : ∀ keys, child.entriesAt keys = other.entriesAt (child.key :: keys) :=
    fun keys => by rw [← same, ordered.here.entriesAt_child member]
  obtain ⟨keys, some⟩ :=
    exists_entriesAt_ne_nil (ordered.child member) (ordered.here.occupied child member)
  cases found : other.child? child.key with
  | none =>
      rw [below, entriesAt_cons, found] at some
      exact absurd rfl some
  | some like =>
      refine ⟨like, mem_of_child? found, key_of_child? found, fun keys => ?_⟩
      rw [below, entriesAt_cons, found]

/-- Two trees in order with the same entries are equal once their marks are renewed. -/
theorem finalize_eq_of_entriesAt {node other : Node Entry} (ordered : Ordered node)
    (canonical : Canonical node) (ordered' : Ordered other) (canonical' : Canonical other)
    (sameSegment : node.segment = other.segment)
    (same : ∀ keys, node.entriesAt keys = other.entriesAt keys) :
    node.finalize = other.finalize := by
  induction node using child_induction generalizing other with
  | inherit node ih =>
      -- a child and its like have one segment, as their common key tells what it is
      have likes : ∀ child ∈ node.children, ∀ like ∈ other.children, like.key = child.key →
          (∀ keys, child.entriesAt keys = like.entriesAt keys) →
          child.finalize = like.finalize := by
        intro child member like member' sameKey sameEntries
        have sameSegment := (canonical.here child member).eq_of_text
          (canonical'.here like member') sameKey.symm
        exact ih child member (ordered.child member) (canonical.child member)
          (ordered'.child member') (canonical'.child member') sameSegment sameEntries
      have ascending := (ordered_finalize ordered).here.ascending
      have ascending' := (ordered_finalize ordered').here.ascending
      rw [children_finalize] at ascending ascending'
      -- both lists ascend by keys, so that they are equal if they have the same members
      have sameChildren : node.children.map finalize = other.children.map finalize := by
        refine List.Perm.eq_of_pairwise (fun a b _ _ ab ba => absurd ba ab.asymm) ascending
          ascending' ?_
        refine (List.perm_ext_iff_of_nodup (ascending.imp fun h => by rintro rfl; exact h.ne rfl)
          (ascending'.imp fun h => by rintro rfl; exact h.ne rfl)).2 fun found => ?_
        constructor
        · intro finalized
          obtain ⟨child, member, rfl⟩ := List.mem_map.1 finalized
          obtain ⟨like, member', sameKey, sameEntries⟩ := exists_like_child ordered same member
          rw [likes child member like member' sameKey sameEntries]
          exact List.mem_map_of_mem member'
        · intro finalized
          obtain ⟨like, member', rfl⟩ := List.mem_map.1 finalized
          obtain ⟨child, member, sameKey, sameEntries⟩ :=
            exists_like_child ordered' (fun keys => (same keys).symm) member'
          rw [← likes child member like member' sameKey.symm fun keys => (sameEntries keys).symm]
          exact List.mem_map_of_mem member
      have sameOccupants : node.occupants = other.occupants :=
        Occupants.toList_injective (same [])
      rw [finalize_eq node, finalize_eq other, sameChildren, sameSegment, sameOccupants]
      refine congrArg (Node.mk other.segment · other.occupants _) (anyUncertain_congr ?_)
      simpa [Function.comp_def] using congrArg (List.map (·.segment)) sameChildren

end Node
end RequestRouting
