import RequestRouting.Proofs.Tree.Contents
import RequestRouting.Tree.Search

/-!
# Steps of a search

The search of a node tries one child for each style, so that it is a composition of four
attempts (`search_eq`). What one attempt needs of the nodes below it is the search of one child
only, which makes statements about searches provable by induction on the tree.
-/

namespace RequestRouting

/-- A property of the candidates at which a walk ended, if it ended at some. -/
def Walk.Only (P : List Candidate → Prop) : Walk → Prop
  | found candidates => P candidates
  | missed _ => True

theorem Walk.Only.orElse {P : List Candidate → Prop} {walk : Walk} {next : List RouteId → Walk}
    (only : walk.Only P) (onlyNext : ∀ rejected, (next rejected).Only P) :
    (walk.orElse next).Only P := by
  cases walk with
  | found candidates => exact only
  | missed rejected => exact onlyNext rejected

theorem Walk.Only.foldl {P : List Candidate → Prop} {α : Type} (attempt : α → List RouteId → Walk)
    (onlyAttempt : ∀ a rejected, (attempt a rejected).Only P) (attempts : List α) {walk : Walk}
    (only : walk.Only P) :
    (attempts.foldl (fun walk a => walk.orElse (attempt a)) walk).Only P := by
  induction attempts generalizing walk with
  | nil => exact only
  | cons a attempts ih => exact ih (only.orElse fun rejected => onlyAttempt a rejected)

namespace Node

/-- The child that is tried for a segment and a style. -/
def probed? (node : Node RouteEntry) (style : SegmentStyle) (segment : Segment) :
    Option (Node RouteEntry) :=
  (probe? style segment).bind node.child?

/-- Goes on at the child that is tried for the segment at a cursor. -/
def follow (evaluate : List RouteEntry → List Candidate) (style : SegmentStyle) (cursor : Cursor)
    (child : Node RouteEntry) (rejected : List RouteId) : Walk :=
  if style = .doubleWildcard then
    let atEnd := if cursor.isLast then child.terminal evaluate rejected else .missed rejected
    let below := cursor.remaining.foldl (fun walk resumed =>
      walk.orElse fun rejected => child.search evaluate resumed rejected) atEnd
    below.orElse fun rejected => child.terminal evaluate rejected
  else
    match cursor.next? with
    | none => child.terminal evaluate rejected
    | some next => child.search evaluate next rejected

/-- Tries one style for the segment at a cursor. -/
def attempt (evaluate : List RouteEntry → List Candidate) (style : SegmentStyle) (cursor : Cursor)
    (node : Node RouteEntry) (rejected : List RouteId) : Walk :=
  match node.probed? style cursor.segment with
  | some child => child.follow evaluate style cursor rejected
  | none => .missed rejected

variable {evaluate : List RouteEntry → List Candidate} {node child : Node RouteEntry}
  {style : SegmentStyle} {segment : Segment}

/-- To go through the children for the one with the key of a style is to go on at the child that
is tried. -/
theorem eq_of_probing {Result : Type} {through : List (Node RouteEntry) → Result}
    {goOn : Node RouteEntry → Result} {missing : Result} (nil : through [] = missing)
    (cons : ∀ child children, through (child :: children) =
      if probe? style segment = some child.key then goOn child else through children) :
    through node.children = (node.probed? style segment).elim missing goOn := by
  obtain ⟨own, uncertain, entries, children⟩ := node
  unfold probed?
  induction children with
  | nil => cases probe? style segment <;> exact nil
  | cons child children ih =>
      rw [cons]
      cases probed : probe? style segment with
      | none => simpa [probed] using ih
      | some key =>
          by_cases here : child.key = key
          · simp [child?, here]
          · have other : ¬key = child.key := fun h => here h.symm
            simpa [probed, child?, here, other] using ih

theorem searchStyle_children (cursor : Cursor) (rejected : List RouteId) :
    searchStyle evaluate style cursor rejected node.children =
      node.attempt evaluate style cursor rejected := by
  have through : searchStyle evaluate style cursor rejected node.children =
      (node.probed? style cursor.segment).elim (.missed rejected) fun child =>
        child.follow evaluate style cursor rejected :=
    eq_of_probing (by rw [searchStyle]) fun _ _ => by rw [searchStyle]; rfl
  rw [through, attempt]
  cases node.probed? style cursor.segment <;> rfl

/-- A search tries the styles one after the other, strongest first. -/
theorem search_eq (cursor : Cursor) (rejected : List RouteId) :
    node.search evaluate cursor rejected =
      (node.attempt evaluate .literal cursor rejected).orElse fun rejected =>
        if node.uncertain then
          (node.attempt evaluate .parameter cursor rejected).orElse fun rejected =>
            (node.attempt evaluate .wildcard cursor rejected).orElse fun rejected =>
              node.attempt evaluate .doubleWildcard cursor rejected
        else .missed rejected := by
  obtain ⟨own, uncertain, entries, children⟩ := node
  rw [search]
  simp only [← searchStyle_children]

theorem mem_of_probed? (probed : node.probed? style segment = some child) :
    child ∈ node.children := by
  obtain ⟨key, -, found⟩ := Option.bind_eq_some_iff.1 probed
  exact mem_of_child? found

theorem key_of_probed? (probed : node.probed? style segment = some child) :
    probe? style segment = some child.key := by
  obtain ⟨key, probe, found⟩ := Option.bind_eq_some_iff.1 probed
  rw [probe, key_of_child? found]

/-! ## Soundness -/

/-- Whether all candidates among routes of a node have a property. -/
def Yields (evaluate : List RouteEntry → List Candidate) (P : List Candidate → Prop)
    (node : Node RouteEntry) : Prop :=
  ∀ own : List RouteEntry, own.Sublist node.entries → evaluate own ≠ [] → P (evaluate own)

variable {P : List Candidate → Prop}

theorem validate_only (yields : node.Yields evaluate P) (rejected : List RouteId) :
    (node.validate evaluate rejected).Only P := by
  unfold validate
  split
  · trivial
  · rename_i some
    exact yields _ List.filter_sublist some

theorem terminal_only (all : node.Everywhere (Yields evaluate P)) (rejected : List RouteId) :
    (node.terminal evaluate rejected).Only P := by
  refine (validate_only all.here rejected).orElse fun rejected => ?_
  split
  · rename_i trailing found
    exact validate_only (all.child (mem_of_child? found)).here rejected
  · trivial

theorem follow_only (all : child.Everywhere (Yields evaluate P))
    (below : ∀ cursor rejected, (child.search evaluate cursor rejected).Only P)
    (cursor : Cursor) (rejected : List RouteId) :
    (child.follow evaluate style cursor rejected).Only P := by
  have ends : ∀ rejected, (child.terminal evaluate rejected).Only P := terminal_only all
  unfold follow
  split
  · refine (Walk.Only.foldl (fun resumed rejected => child.search evaluate resumed rejected)
      below _ ?_).orElse ends
    split
    · exact ends rejected
    · trivial
  · split
    · exact ends rejected
    · exact below _ rejected

/-- What all attempts keep to a search keeps to. -/
theorem search_only_of_attempts {cursor : Cursor}
    (attempts : ∀ style rejected, (node.attempt evaluate style cursor rejected).Only P)
    (rejected : List RouteId) : (node.search evaluate cursor rejected).Only P := by
  rw [search_eq]
  refine (attempts .literal rejected).orElse fun rejected => ?_
  split
  · exact (attempts .parameter rejected).orElse fun rejected =>
      (attempts .wildcard rejected).orElse fun rejected => attempts .doubleWildcard rejected
  · trivial

/-- A search ends at candidates among routes of one node only. -/
theorem search_only (all : node.Everywhere (Yields evaluate P)) (cursor : Cursor)
    (rejected : List RouteId) : (node.search evaluate cursor rejected).Only P := by
  induction node using child_induction generalizing cursor rejected with
  | inherit node ih =>
      refine search_only_of_attempts (fun style rejected => ?_) rejected
      unfold attempt
      split
      · rename_i child probed
        have member := mem_of_probed? probed
        exact follow_only (all.child member) (ih child member (all.child member)) cursor rejected
      · trivial

end Node

/-! ## Below the root -/

namespace PatternTree

variable {tree : PatternTree RouteEntry} {entries : List RouteEntry} {child : Node RouteEntry}

theorem keys_chain (entry : RouteEntry) :
    ∃ keys, PatternTree.keys entry.chain = entry.method.name :: keys :=
  ⟨(finished .ofToken (tokensOf entry.pattern.text.toList)).map (·.text), by
    rw [keys, RouteEntry.chain, segments_ofPattern]
    simp [Segment.literal]⟩

theorem Holds.mem_entriesAt_child (holds : tree.Holds entries)
    (member : child ∈ tree.root.children) {keys : List String} {entry : RouteEntry}
    (found : entry ∈ child.entriesAt keys) :
    entry ∈ entries ∧ PatternTree.keys entry.chain = child.key :: keys := by
  rw [← holds.ordered.here.entriesAt_child member] at found
  exact holds.mem_entriesAt_root.1 found

/-- The routes below a child of the root are those whose method is the key of the child. -/
theorem Holds.mem_of_child (holds : tree.Holds entries) (member : child ∈ tree.root.children)
    {keys : List String} {entry : RouteEntry} (found : entry ∈ child.entriesAt keys) :
    entry ∈ entries ∧ entry.method.name = child.key := by
  obtain ⟨here, sameKeys⟩ := holds.mem_entriesAt_child member found
  obtain ⟨rest, own⟩ := keys_chain entry
  rw [own] at sameKeys
  exact ⟨here, (List.cons.inj sameKeys).1⟩

/-- The children of the root are those of methods. -/
theorem Holds.method_of_child (holds : tree.Holds entries) (member : child ∈ tree.root.children) :
    ∃ method : Method, child.key = method.name := by
  obtain ⟨keys, some⟩ := Node.exists_entriesAt_ne_nil (holds.ordered.child member)
    (holds.ordered.here.occupied child member)
  obtain ⟨entry, found⟩ := List.exists_mem_of_ne_nil _ some
  exact ⟨entry.method, (holds.mem_of_child member found).2.symm⟩

/-- For the method of a request no other child of the root is tried than the one of this
method. -/
theorem Holds.probed?_root (holds : tree.Holds entries) {style : SegmentStyle} {segment : Segment}
    (probed : tree.root.probed? style segment = some child) :
    style = .literal ∧ child.key = segment.text := by
  obtain ⟨method, key⟩ := holds.method_of_child (Node.mem_of_probed? probed)
  have probe := Node.key_of_probed? probed
  rw [key] at probe
  cases style with
  | literal => exact ⟨rfl, by rw [key]; exact (Option.some.inj probe).symm⟩
  | parameter =>
      simp only [Node.probe?, Option.ite_none_left_eq_some] at probe
      exact absurd probe.2 (Method.canonicalKey?_ne_name .parameter method)
  | wildcard => exact absurd probe (Method.canonicalKey?_ne_name .wildcard method)
  | doubleWildcard => exact absurd probe (Method.canonicalKey?_ne_name .doubleWildcard method)

/-- A search for a request ends at candidates among the routes for its method. -/
theorem Holds.search_only (holds : tree.Holds entries) {method : Method} {path : String}
    {evaluate : List RouteEntry → List Candidate} {P : List Candidate → Prop}
    (yields : ∀ own : List RouteEntry, own.Sublist (entries.filter (·.method == method)) →
      evaluate own ≠ [] → P (evaluate own)) :
    (tree.root.search evaluate (Chain.ofRequest method.name path).cursor []).Only P := by
  have first : (Chain.ofRequest method.name path).cursor.segment.text = method.name := by
    simp [Chain.cursor, segments_ofRequest, Segment.literal]
  refine Node.search_only_of_attempts (fun style rejected => ?_) []
  -- no style leads below the root but to the child of the request's method
  unfold Node.attempt
  split
  · rename_i child probed
    have member := Node.mem_of_probed? probed
    have key := (holds.probed?_root probed).2
    have all : child.Everywhere (Node.Yields evaluate P) := by
      refine Node.everywhere_entries (Q := fun here => ∀ own : List RouteEntry,
        own.Sublist here → evaluate own ≠ [] → P (evaluate own)) (holds.ordered.child member) ?_
      intro keys own part some
      refine yields own (part.trans ?_) some
      have ofMethod : ∀ entry ∈ child.entriesAt keys, (entry.method == method) = true := by
        intro entry below
        obtain ⟨-, name⟩ := holds.mem_of_child member below
        exact beq_iff_eq.2 (Method.name_injective (name.trans (key.trans first)))
      rw [← List.filter_eq_self.2 ofMethod, ← holds.ordered.here.entriesAt_child member,
        holds.entriesAt_root]
      exact List.filter_sublist.filter _
    exact Node.follow_only all (Node.search_only all) _ rejected
  · trivial

end PatternTree
end RequestRouting
