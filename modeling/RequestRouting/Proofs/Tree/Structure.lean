import Mathlib.Data.List.Nodup
import Mathlib.Data.List.Sort
import Mathlib.Data.String.Basic
import RequestRouting.Tree.Basic

/-!
# The structure of pattern trees

A tree that is built by insertions and removals has three properties at every node, each of
which is kept by every operation:

* **order** (`Ordered`) — children ascend strictly by their keys, and none of them is empty;
* **canonical segments** (`Canonical`) — the text of a segment tells its style, so that a key
  stands for one segment only;
* **marks** (`Marked`) — a node is marked uncertain exactly if a child is no literal segment.
  Insertions break this and `finalize` restores it; removals keep it.

`Everywhere` states a property of a node and of all below it, with one lemma for each operation.
-/

namespace RequestRouting

/-! ## Occupants -/

namespace Occupants

variable {Entry : Type}

@[simp] theorem toList_nobody : (nobody : Occupants Entry).toList = [] := rfl

/-- A new entry is the last one, whether it becomes the primary one or not. -/
@[simp] theorem toList_add (entry : Entry) (occupants : Occupants Entry) :
    (occupants.add entry).toList = occupants.toList ++ [entry] := by
  unfold add toList
  split
  · rename_i missing
    rw [missing, occupants.led missing]
    rfl
  · rename_i primary present
    simp [present]

theorem toList_promote (primary? : Option Entry) (siblings : List Entry) :
    (promote primary? siblings).toList = primary?.toList ++ siblings := by
  cases primary? with
  | some primary => rfl
  | none => cases siblings <;> rfl

/-- A promotion leaves the entries in their order. -/
@[simp] theorem toList_dismiss (drop : Entry → Bool) (occupants : Occupants Entry) :
    (occupants.dismiss drop).toList = occupants.toList.filter (!drop ·) := by
  rw [dismiss, toList_promote, toList, List.filter_append]
  congr 1
  cases occupants.primary? with
  | none => rfl
  | some primary => cases dropped : drop primary <;> simp [Option.filter, dropped]

theorem toList_eq_nil_iff (occupants : Occupants Entry) :
    occupants.toList = [] ↔ occupants.primary? = none := by
  rw [toList, List.append_eq_nil_iff, Option.toList_eq_nil_iff]
  exact ⟨And.left, fun missing => ⟨missing, occupants.led missing⟩⟩

theorem isEmpty_eq (occupants : Occupants Entry) :
    occupants.isEmpty = occupants.toList.isEmpty := by
  unfold isEmpty toList
  cases occupants.primary? <;> simp

/-- The order of entries tells which one is the primary one. -/
theorem toList_injective : Function.Injective (toList : Occupants Entry → List Entry) := by
  rintro ⟨_ | first, siblings, led⟩ ⟨_ | other, siblings', led'⟩ same
  · obtain rfl := led rfl
    obtain rfl := led' rfl
    rfl
  · obtain rfl := led rfl
    simp [toList] at same
  · obtain rfl := led' rfl
    simp [toList] at same
  · simpa [toList] using same

end Occupants

namespace Node

variable {Entry : Type} {P : Node Entry → Prop}

theorem isEmpty_eq (node : Node Entry) :
    node.isEmpty = (node.entries.isEmpty && node.children.isEmpty) := by
  rw [isEmpty, Occupants.isEmpty_eq, entries]

/-- What every node inherits from its children holds of all nodes. -/
theorem child_induction {motive : Node Entry → Prop}
    (inherit : ∀ node : Node Entry, (∀ child ∈ node.children, motive child) → motive node) :
    ∀ node, motive node
  | ⟨segment, uncertain, occupants, children⟩ =>
    inherit _ fun child _member => child_induction inherit child
termination_by node => sizeOf node
decreasing_by
  have smaller : sizeOf child < sizeOf children := List.sizeOf_lt_of_mem _member
  simp only [mk.sizeOf_spec]
  omega

/-- A property of a node and of all nodes below it. -/
inductive Everywhere (P : Node Entry → Prop) : Node Entry → Prop
  | intro {node} : P node → (∀ child ∈ node.children, Everywhere P child) → Everywhere P node

theorem Everywhere.here {node : Node Entry} (h : Everywhere P node) : P node := by
  cases h with
  | intro here _ => exact here

theorem Everywhere.imp {Q : Node Entry → Prop} {node : Node Entry} (h : Everywhere P node)
    (weaker : ∀ node, P node → Q node) : Everywhere Q node := by
  induction h with
  | intro here _ ih => exact .intro (weaker _ here) ih

theorem Everywhere.and {Q : Node Entry → Prop} {node : Node Entry} (hP : Everywhere P node)
    (hQ : Everywhere Q node) : Everywhere (fun node => P node ∧ Q node) node := by
  induction hP with
  | intro here _ ih =>
      cases hQ with
      | intro here' below' =>
          exact .intro ⟨here, here'⟩ fun child member => ih child member (below' child member)

theorem Everywhere.child {node child : Node Entry} (h : Everywhere P node)
    (member : child ∈ node.children) : Everywhere P child := by
  cases h with
  | intro _ below => exact below child member

/-! ## Children -/

theorem mem_of_child? {node child : Node Entry} {key : String}
    (found : node.child? key = some child) : child ∈ node.children :=
  List.mem_of_find?_eq_some found

theorem key_of_child? {node child : Node Entry} {key : String}
    (found : node.child? key = some child) : child.key = key := by
  simpa using List.find?_some found

theorem changeChild_ne_nil (segment : Segment) (change : Node Entry → Node Entry)
    (children : List (Node Entry)) : changeChild segment change children ≠ [] := by
  cases children with
  | nil => simp [changeChild]
  | cons child children =>
      simp only [changeChild]
      split
      · simp
      · split <;> simp

/-- A child after a change was there before, or is the changed one. -/
theorem mem_changeChild {segment : Segment} {change : Node Entry → Node Entry}
    {children : List (Node Entry)} {child : Node Entry}
    (member : child ∈ changeChild segment change children) :
    child ∈ children ∨
      ∃ old, child = change old ∧
        (old = new segment ∨ old ∈ children ∧ old.key = segment.text) := by
  induction children with
  | nil =>
      simp only [changeChild, List.mem_singleton] at member
      exact .inr ⟨_, member, .inl rfl⟩
  | cons first others ih =>
      simp only [changeChild] at member
      split at member
      · rename_i same
        rcases List.mem_cons.1 member with changed | member
        · exact .inr ⟨first, changed, .inr ⟨List.mem_cons_self, same⟩⟩
        · exact .inl (List.mem_cons_of_mem _ member)
      · split at member
        · rcases List.mem_cons.1 member with changed | member
          · exact .inr ⟨_, changed, .inl rfl⟩
          · exact .inl member
        · rcases List.mem_cons.1 member with rfl | member
          · exact .inl List.mem_cons_self
          · rcases ih member with member | ⟨old, changed, new | ⟨member, same⟩⟩
            · exact .inl (List.mem_cons_of_mem _ member)
            · exact .inr ⟨old, changed, .inl new⟩
            · exact .inr ⟨old, changed, .inr ⟨List.mem_cons_of_mem _ member, same⟩⟩

/-- A child after another was put in its place was there before, or is the other one, which is
not empty. -/
theorem mem_putChild {node child kept : Node Entry} {key : String}
    (member : child ∈ (node.putChild key kept).children) :
    child ∈ node.children ∨ child = kept ∧ kept.isEmpty = false := by
  unfold putChild at member
  split at member
  · exact .inl (List.mem_of_mem_filter member)
  · rename_i occupied
    obtain ⟨old, oldMember, replaced⟩ := List.mem_map.1 member
    split at replaced
    · exact .inr ⟨replaced.symm, by simpa using occupied⟩
    · exact .inl (replaced ▸ oldMember)

/-! ## Operations keep the segment of the node itself -/

@[simp] theorem key_new (segment : Segment) : (new segment : Node Entry).key = segment.text := rfl

@[simp] theorem segment_insert (entry : Entry) (segments : List Segment) (node : Node Entry) :
    (node.insert entry segments).segment = node.segment := by
  cases segments <;> rfl

@[simp] theorem key_insert (entry : Entry) (segments : List Segment) (node : Node Entry) :
    (node.insert entry segments).key = node.key := by
  simp [key]

@[simp] theorem segment_putChild (node child : Node Entry) (key : String) :
    (node.putChild key child).segment = node.segment := by
  unfold putChild
  split <;> rfl

@[simp] theorem entries_putChild (node child : Node Entry) (key : String) :
    (node.putChild key child).entries = node.entries := by
  unfold putChild
  split <;> rfl

@[simp] theorem segment_remove (drop : Entry → Bool) (keys : List String) (node : Node Entry) :
    (node.remove drop keys).segment = node.segment := by
  cases keys with
  | nil => rfl
  | cons key keys =>
      simp only [remove]
      split <;> simp

@[simp] theorem key_remove (drop : Entry → Bool) (keys : List String) (node : Node Entry) :
    (node.remove drop keys).key = node.key := by
  simp [key]

theorem finalizeAll_eq_map (nodes : List (Node Entry)) :
    finalizeAll nodes = nodes.map finalize := by
  induction nodes with
  | nil => rfl
  | cons node nodes ih => simp [finalizeAll, ih]

theorem finalize_eq (node : Node Entry) :
    node.finalize =
      ⟨node.segment, anyUncertain node.children, node.occupants, node.children.map finalize⟩ := by
  cases node
  simp [finalize, finalizeAll_eq_map]

@[simp] theorem segment_finalize (node : Node Entry) : node.finalize.segment = node.segment := by
  simp [finalize_eq]

@[simp] theorem key_finalize (node : Node Entry) : node.finalize.key = node.key := by
  simp [key]

@[simp] theorem occupants_finalize (node : Node Entry) :
    node.finalize.occupants = node.occupants := by
  simp [finalize_eq]

@[simp] theorem entries_finalize (node : Node Entry) : node.finalize.entries = node.entries := by
  simp [entries]

@[simp] theorem children_finalize (node : Node Entry) :
    node.finalize.children = node.children.map finalize := by
  simp [finalize_eq]

@[simp] theorem isEmpty_finalize (node : Node Entry) : node.finalize.isEmpty = node.isEmpty := by
  simp [isEmpty]

/-- A node in which something was inserted is occupied. -/
theorem isEmpty_insert (entry : Entry) (segments : List Segment) (node : Node Entry) :
    (node.insert entry segments).isEmpty = false := by
  cases segments with
  | nil => simp [insert, isEmpty_eq, entries]
  | cons segment segments => simp [insert, isEmpty, changeChild_ne_nil]

/-! ## What an operation keeps everywhere -/

/-- An insertion keeps everywhere what it keeps of each node on its way. -/
theorem Everywhere.insert {Q : Segment → Prop} {entry : Entry}
    (fresh : ∀ segment, P (new segment))
    (added : ∀ node, P node → P { node with occupants := node.occupants.add entry })
    (changed : ∀ node segment segments, Q segment → P node →
      P { node with children := changeChild segment (Node.insert entry segments) node.children })
    {segments : List Segment} (allowed : ∀ segment ∈ segments, Q segment) {node : Node Entry}
    (h : Everywhere P node) : Everywhere P (node.insert entry segments) := by
  induction segments generalizing node with
  | nil => exact .intro (added node h.here) fun child member => h.child member
  | cons segment segments ih =>
      have later : ∀ other ∈ segments, Q other :=
        fun other member => allowed other (List.mem_cons_of_mem _ member)
      refine .intro (changed node segment segments (allowed _ List.mem_cons_self) h.here) ?_
      intro child member
      -- besides the children that stay there is the one that was changed, which may be new
      rcases mem_changeChild member with old | ⟨old, rfl, rfl | ⟨old, _⟩⟩
      · exact h.child old
      · exact ih later (.intro (fresh segment) (by simp [new]))
      · exact ih later (h.child old)

/-- A removal keeps everywhere what it keeps of each node on its way. -/
theorem Everywhere.remove {drop : Entry → Bool}
    (dropped : ∀ node, P node → P { node with occupants := node.occupants.dismiss drop })
    (put : ∀ node child key keys, node.child? key = some child → P node →
      P (node.putChild key (child.remove drop keys)))
    {keys : List String} {node : Node Entry} (h : Everywhere P node) :
    Everywhere P (node.remove drop keys) := by
  induction keys generalizing node with
  | nil => exact .intro (dropped node h.here) fun child member => h.child member
  | cons key keys ih =>
      simp only [Node.remove]
      split
      · exact h
      · rename_i child found
        refine .intro (put node child key keys found h.here) ?_
        intro other member
        rcases mem_putChild member with old | ⟨rfl, _⟩
        · exact h.child old
        · exact ih (h.child (mem_of_child? found))

/-- Renewing the marks keeps everywhere what it keeps of each node, and may use the marks. -/
theorem Everywhere.finalize
    (renewed : ∀ node, P node → P node.finalize) {node : Node Entry} (h : Everywhere P node) :
    Everywhere P node.finalize := by
  induction node using child_induction with
  | inherit node ih =>
      refine .intro (renewed node h.here) ?_
      intro child member
      rw [children_finalize] at member
      obtain ⟨old, oldMember, rfl⟩ := List.mem_map.1 member
      exact ih old oldMember (h.child oldMember)

/-! ## Order -/

/-- The children of a node ascend strictly by their keys, and none of them is empty. -/
structure Neat (node : Node Entry) : Prop where
  ascending : node.children.Pairwise fun a b => a.key < b.key
  occupied : ∀ child ∈ node.children, child.isEmpty = false

/-- A node below which all children are in order. -/
def Ordered (node : Node Entry) : Prop := Everywhere Neat node

theorem neat_new (segment : Segment) : Neat (new segment : Node Entry) :=
  ⟨by simp [new], by simp [new]⟩

theorem Neat.nodup_keys {node : Node Entry} (neat : Neat node) :
    (node.children.map key).Nodup :=
  List.pairwise_map.2 (neat.ascending.imp fun before => ne_of_lt before)

/-- A child is the only one with its key. -/
theorem Neat.eq_of_key {node a b : Node Entry} (neat : Neat node) (ha : a ∈ node.children)
    (hb : b ∈ node.children) (sameKey : a.key = b.key) : a = b :=
  List.inj_on_of_nodup_map neat.nodup_keys ha hb sameKey

/-- A change that keeps keys keeps children in order, as it adds a child in its place. -/
theorem ascending_changeChild {segment : Segment} {change : Node Entry → Node Entry}
    (sameKey : ∀ node, (change node).key = node.key) {children : List (Node Entry)}
    (ascending : children.Pairwise fun a b => a.key < b.key) :
    (changeChild segment change children).Pairwise fun a b => a.key < b.key := by
  induction children with
  | nil => simp [changeChild]
  | cons first others ih =>
      obtain ⟨before, ascendingOthers⟩ := List.pairwise_cons.1 ascending
      simp only [changeChild]
      split
      · -- the child is there already and keeps its key
        exact List.pairwise_cons.2 ⟨by simpa only [sameKey] using before, ascendingOthers⟩
      · rename_i different
        split
        · rename_i smaller
          -- the new child stands before this one, and so before all that follow
          refine List.pairwise_cons.2 ⟨?_, ascending⟩
          intro child member
          rw [sameKey, key_new]
          rcases List.mem_cons.1 member with rfl | member
          · exact smaller
          · exact smaller.trans (before child member)
        · rename_i notSmaller
          refine List.pairwise_cons.2 ⟨?_, ih ascendingOthers⟩
          intro child member
          have larger : first.key < segment.text :=
            lt_of_le_of_ne (not_lt.1 notSmaller) different
          rcases mem_changeChild member with member | ⟨old, rfl, rfl | ⟨member, _⟩⟩
          · exact before child member
          · rwa [sameKey, key_new]
          · rw [sameKey]
            exact before old member

theorem ordered_insert {entry : Entry} {segments : List Segment} {node : Node Entry}
    (ordered : Ordered node) : Ordered (node.insert entry segments) := by
  refine Everywhere.insert (Q := fun _ => True) neat_new ?_ ?_ (fun _ _ => trivial) ordered
  · exact fun node neat => ⟨neat.ascending, neat.occupied⟩
  · intro node segment segments _ neat
    refine ⟨ascending_changeChild (key_insert entry segments) neat.ascending, ?_⟩
    intro child member
    rcases mem_changeChild member with member | ⟨old, rfl, _⟩
    · exact neat.occupied child member
    · exact isEmpty_insert entry segments old

/-- What is left of a child stands in its place, unless it is empty. -/
theorem neat_putChild_remove {drop : Entry → Bool} {keys : List String} {node child : Node Entry}
    {key : String} (found : node.child? key = some child) (neat : Neat node) :
    Neat (node.putChild key (child.remove drop keys)) := by
  have sameKey : (child.remove drop keys).key = key := by simp [key_of_child? found]
  refine ⟨?_, ?_⟩
  · unfold putChild
    split
    · exact neat.ascending.filter _
    · refine List.pairwise_map.2 (neat.ascending.imp ?_)
      intro a b before
      simp only [beq_iff_eq]
      -- at most one of two children has the key at which something is put
      split <;> split <;> rename_i ha hb
      · exact absurd before (by rw [ha, hb]; exact lt_irrefl _)
      · rwa [sameKey, ← ha]
      · rwa [sameKey, ← hb]
      · exact before
  · intro other member
    rcases mem_putChild member with member | ⟨rfl, occupied⟩
    · exact neat.occupied other member
    · exact occupied

theorem ordered_remove {drop : Entry → Bool} {keys : List String} {node : Node Entry}
    (ordered : Ordered node) : Ordered (node.remove drop keys) :=
  Everywhere.remove (fun _ neat => ⟨neat.ascending, neat.occupied⟩)
    (fun _ _ _ _ found neat => neat_putChild_remove found neat) ordered

theorem ordered_finalize {node : Node Entry} (ordered : Ordered node) : Ordered node.finalize := by
  refine Everywhere.finalize ?_ ordered
  intro node neat
  refine ⟨?_, ?_⟩
  · rw [children_finalize]
    exact List.pairwise_map.2 (by simpa using neat.ascending)
  · intro child member
    rw [children_finalize] at member
    obtain ⟨old, oldMember, rfl⟩ := List.mem_map.1 member
    simpa using neat.occupied old oldMember

end Node

/-! ## Canonical segments -/

/-- A segment whose text is the key of a style exactly if the segment has this style. -/
def Segment.IsCanonical (segment : Segment) : Prop :=
  ∀ style key, style.canonicalKey? = some key → (segment.text = key ↔ segment.style = style)

/-- The text of a canonical segment tells what segment it is. -/
theorem Segment.IsCanonical.eq_of_text {s t : Segment} (hs : s.IsCanonical) (ht : t.IsCanonical)
    (sameText : s.text = t.text) : s = t := by
  have sameStyle : s.style = t.style := by
    cases key : s.style.canonicalKey? with
    | some _ => exact ((ht _ _ key).1 (sameText ▸ (hs _ _ key).2 rfl)).symm
    | none =>
        cases key' : t.style.canonicalKey? with
        | some _ => exact (hs _ _ key').1 (sameText ▸ (ht _ _ key').2 rfl)
        | none =>
            cases hs' : s.style <;> cases ht' : t.style <;> simp_all [SegmentStyle.canonicalKey?]
  cases s
  cases t
  simp_all

namespace Node

variable {Entry : Type}

/-- A node below which all segments are canonical. -/
def Canonical (node : Node Entry) : Prop :=
  Everywhere (fun node => ∀ child ∈ node.children, child.segment.IsCanonical) node

theorem canonical_insert {entry : Entry} {segments : List Segment} {node : Node Entry}
    (canonicalSegments : ∀ segment ∈ segments, segment.IsCanonical) (canonical : Canonical node) :
    Canonical (node.insert entry segments) := by
  refine Everywhere.insert (fun _ => by simp [new]) (fun node h => h) ?_ canonicalSegments canonical
  intro node segment segments here h child member
  rcases mem_changeChild member with member | ⟨old, rfl, rfl | ⟨member, _⟩⟩
  · exact h child member
  · rwa [segment_insert]
  · rw [segment_insert]
    exact h old member

theorem canonical_remove {drop : Entry → Bool} {keys : List String} {node : Node Entry}
    (canonical : Canonical node) : Canonical (node.remove drop keys) := by
  refine Everywhere.remove (fun node h => h) ?_ canonical
  intro node child key keys found h other member
  rcases mem_putChild member with member | ⟨rfl, _⟩
  · exact h other member
  · rw [segment_remove]
    exact h child (mem_of_child? found)

theorem canonical_finalize {node : Node Entry} (canonical : Canonical node) :
    Canonical node.finalize := by
  refine Everywhere.finalize ?_ canonical
  intro node h child member
  rw [children_finalize] at member
  obtain ⟨old, oldMember, rfl⟩ := List.mem_map.1 member
  simpa using h old oldMember

/-! ## Marks -/

/-- A node that is marked exactly if a child is no literal segment, as are all nodes below it. -/
def Marked (node : Node Entry) : Prop :=
  Everywhere (fun node => node.uncertain = anyUncertain node.children) node

/-- Marks depend on the segments of the children only. -/
theorem anyUncertain_congr {nodes others : List (Node Entry)}
    (same : nodes.map (·.segment) = others.map (·.segment)) :
    anyUncertain nodes = anyUncertain others := by
  have of_segments : ∀ nodes : List (Node Entry),
      anyUncertain nodes = (nodes.map (·.segment)).any (·.style.isUncertain) := by
    intro nodes
    simp [anyUncertain, List.any_map, Function.comp_def]
  rw [of_segments, of_segments, same]

/-- Where no child is dropped, the mark stays right, as the child that is put has the segment of
the one that it replaces; where one is dropped, the mark is renewed. -/
theorem marked_remove {drop : Entry → Bool} {keys : List String} {node : Node Entry}
    (ordered : Ordered node) (marked : Marked node) : Marked (node.remove drop keys) := by
  -- marks alone are not kept: that a child is the only one with its key is needed as well
  refine (Everywhere.remove (fun node h => ⟨⟨h.1.ascending, h.1.occupied⟩, h.2⟩) ?_
    (ordered.and marked)).imp fun _ h => h.2
  rintro node child key keys found ⟨neat, mark⟩
  refine ⟨neat_putChild_remove found neat, ?_⟩
  unfold putChild
  split
  · rfl
  · rw [mark]
    apply anyUncertain_congr
    rw [List.map_map]
    apply List.map_congr_left
    intro old member
    simp only [Function.comp_apply, beq_iff_eq]
    split
    · rename_i sameKey
      have : old = child :=
        neat.eq_of_key member (mem_of_child? found) (sameKey.trans (key_of_child? found).symm)
      rw [this, segment_remove]
    · rfl

theorem marked_finalize (node : Node Entry) : Marked node.finalize := by
  induction node using child_induction with
  | inherit node ih =>
      refine .intro ?_ ?_
      · rw [finalize_eq]
        exact anyUncertain_congr (by simp)
      · intro child member
        rw [children_finalize] at member
        obtain ⟨old, oldMember, rfl⟩ := List.mem_map.1 member
        exact ih old oldMember

end Node
end RequestRouting
