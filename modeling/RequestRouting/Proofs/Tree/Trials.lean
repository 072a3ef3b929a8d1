import RequestRouting.Proofs.Tree.Entries
import RequestRouting.Proofs.Tree.PlainSearch

/-!
# The trials of a search

Where a search looks, and in which order, is told by the request alone (`Cursor.trials`): a tree
only tells what stands there (`plainSearch?_eq_findSome?`). Searches of two trees for one request
therefore end at the same keys, unless what stands there or before is a candidate in one of them
only (`plainSearch?_elsewhere`).
-/

namespace RequestRouting

/-- The keys below a node at which a walk ends: its own, and those of a child `**`. -/
def endings : List (List String) :=
  [[], [Segment.doubleWildcard.text]]

/-- The keys that are tried below a child that is tried by a style for the segment at a place. -/
def Cursor.below (further : Cursor → List (List String)) (style : SegmentStyle) (cursor : Cursor) :
    List (List String) :=
  if style = .doubleWildcard then
    (if cursor.isLast then endings else []) ++ cursor.remaining.flatMap further ++ endings
  else
    match cursor.next? with
    | none => endings
    | some next => further next

/-- The keys that are tried for the segments from a place on, in the order of a search that goes
down to a depth. A multi-segment wildcard need not take a segment, so that there is no end to them
without a depth. -/
def Cursor.trials : (depth : Nat) → Cursor → List (List String)
  | 0, _ => []
  | depth + 1, cursor => SegmentStyle.all.flatMap fun style =>
    (Node.probe? style cursor.segment).elim [] fun key =>
      (cursor.below (trials depth) style).map (key :: ·)

theorem findSome?_flatMap {α β γ : Type} (f : β → Option γ) (g : α → List β) (as : List α) :
    (as.flatMap g).findSome? f = as.findSome? fun a => (g a).findSome? f := by
  induction as with
  | nil => rfl
  | cons a as ih =>
      rw [List.flatMap_cons, List.findSome?_append, ih, List.findSome?_cons]
      cases (g a).findSome? f <;> rfl

namespace Node

variable {evaluate evaluate' : List RouteEntry → List Candidate} {node other child : Node RouteEntry}

/-- The candidates at the end of some keys, if there are any. -/
def evaluatedAt? (evaluate : List RouteEntry → List Candidate) (node : Node RouteEntry)
    (keys : List String) : Option (List Candidate) :=
  match evaluate (node.entriesAt keys) with
  | [] => none
  | candidates => some candidates

theorem evaluatedAt?_eq_none_iff {keys : List String} :
    node.evaluatedAt? evaluate keys = none ↔ evaluate (node.entriesAt keys) = [] := by
  unfold evaluatedAt?
  cases evaluate (node.entriesAt keys) <;> simp

theorem evaluatedAt?_eq_some_iff {keys : List String} {found : List Candidate} :
    node.evaluatedAt? evaluate keys = some found ↔
      found ≠ [] ∧ evaluate (node.entriesAt keys) = found := by
  unfold evaluatedAt?
  cases evaluate (node.entriesAt keys) with
  | nil =>
      simp only [reduceCtorEq, false_iff, not_and]
      exact fun some none => some none.symm
  | cons candidate others =>
      simp only [Option.some.injEq]
      constructor
      · rintro rfl
        exact ⟨List.cons_ne_nil _ _, rfl⟩
      · exact And.right

theorem evaluatedAt?_cons (nothing : evaluate [] = []) (key : String) (keys : List String) :
    node.evaluatedAt? evaluate (key :: keys) =
      (node.child? key).bind (·.evaluatedAt? evaluate keys) := by
  unfold evaluatedAt?
  rw [entriesAt_cons]
  cases node.child? key with
  | none => simp [nothing]
  | some child => rfl

/-- A walk that ends at a node tries the keys where walks end. -/
theorem plainTerminal?_eq (nothing : evaluate [] = []) :
    node.plainTerminal? evaluate = endings.findSome? (node.evaluatedAt? evaluate) := by
  have here : node.evaluatedAt? evaluate [] = node.evaluated? evaluate := rfl
  unfold plainTerminal? endings
  rw [List.findSome?_cons, List.findSome?_singleton, here, evaluatedAt?_cons nothing]
  cases node.evaluated? evaluate <;> rfl

/-- Below a child that is tried, the keys are tried that may follow its own. -/
theorem plainFollow?_eq (nothing : evaluate [] = []) {further : Cursor → List (List String)}
    (below : ∀ cursor, child.plainSearch? evaluate cursor =
      (further cursor).findSome? (child.evaluatedAt? evaluate))
    (style : SegmentStyle) (cursor : Cursor) :
    child.plainFollow? evaluate style cursor =
      (cursor.below further style).findSome? (child.evaluatedAt? evaluate) := by
  have ends : child.plainTerminal? evaluate = endings.findSome? (child.evaluatedAt? evaluate) :=
    plainTerminal?_eq nothing
  unfold plainFollow? Cursor.below
  split
  · have resumed : (fun resumed => child.plainSearch? evaluate resumed) =
        fun resumed => (further resumed).findSome? (child.evaluatedAt? evaluate) := funext below
    dsimp only
    rw [resumed, List.findSome?_append, List.findSome?_append, findSome?_flatMap, ends]
    split <;> rfl
  · cases cursor.next? with
    | none => exact ends
    | some next => exact below next

/-- A search finds what stands at the first of its trials where something is found. -/
theorem plainSearch?_eq_findSome? (nothing : evaluate [] = []) {depth : Nat}
    (deep : sizeOf node ≤ depth) (cursor : Cursor) :
    node.plainSearch? evaluate cursor =
      (cursor.trials depth).findSome? (node.evaluatedAt? evaluate) := by
  induction depth generalizing node cursor with
  | zero =>
      obtain ⟨segment, uncertain, occupants, children⟩ := node
      simp only [mk.sizeOf_spec] at deep
      omega
  | succ depth ih =>
      have attempts : ∀ style, node.plainAttempt? evaluate style cursor =
          ((probe? style cursor.segment).elim [] fun key =>
            (cursor.below (Cursor.trials depth) style).map (key :: ·)).findSome?
              (node.evaluatedAt? evaluate) := by
        intro style
        unfold plainAttempt? probed?
        cases probe? style cursor.segment with
        | none => rfl
        | some key =>
            have tried : node.evaluatedAt? evaluate ∘ (key :: ·) =
                fun keys => (node.child? key).bind (·.evaluatedAt? evaluate keys) :=
              funext fun keys => evaluatedAt?_cons nothing key keys
            rw [Option.bind_some, Option.elim_some, List.findSome?_map, tried]
            cases found : node.child? key with
            | none => exact (List.findSome?_eq_none_iff.2 fun _ _ => rfl).symm
            | some child =>
                have smaller : sizeOf child < sizeOf node := by
                  have member := mem_of_child? found
                  obtain ⟨segment, uncertain, occupants, children⟩ := node
                  have := List.sizeOf_lt_of_mem member
                  simp only [mk.sizeOf_spec] at this ⊢
                  omega
                exact plainFollow?_eq nothing (fun cursor => ih (by omega) cursor) style cursor
      rw [plainSearch?_eq, Cursor.trials, findSome?_flatMap]
      simp only [SegmentStyle.all, List.findSome?_cons, List.findSome?_nil, ← attempts]
      cases node.plainAttempt? evaluate .literal cursor <;>
        cases node.plainAttempt? evaluate .parameter cursor <;>
          cases node.plainAttempt? evaluate .wildcard cursor <;>
            cases node.plainAttempt? evaluate .doubleWildcard cursor <;> rfl

/-- A search that finds something finds it at the end of some keys. Another one that finds nothing
at any keys where this one does not either ends at the same keys, if it finds something there. -/
theorem plainSearch?_elsewhere
    (none : ∀ keys, evaluate (node.entriesAt keys) = [] → evaluate' (other.entriesAt keys) = [])
    (nothing : evaluate [] = []) (nothing' : evaluate' [] = []) (cursor : Cursor) :
    match node.plainSearch? evaluate cursor with
    | .none => other.plainSearch? evaluate' cursor = .none
    | .some found => found ≠ [] ∧ ∃ keys, evaluate (node.entriesAt keys) = found ∧
        (evaluate' (other.entriesAt keys) ≠ [] →
          other.plainSearch? evaluate' cursor = .some (evaluate' (other.entriesAt keys))) := by
  have deep : sizeOf node ≤ sizeOf node + sizeOf other := by omega
  have deep' : sizeOf other ≤ sizeOf node + sizeOf other := by omega
  have never : ∀ keys, node.evaluatedAt? evaluate keys = .none →
      other.evaluatedAt? evaluate' keys = .none := by
    intro keys missed
    exact evaluatedAt?_eq_none_iff.2 (none keys (evaluatedAt?_eq_none_iff.1 missed))
  rw [plainSearch?_eq_findSome? nothing deep, plainSearch?_eq_findSome? nothing' deep']
  split
  · rename_i missed
    exact List.findSome?_eq_none_iff.2 fun keys member =>
      never keys (List.findSome?_eq_none_iff.1 missed keys member)
  · rename_i found ended
    obtain ⟨before, keys, after, split, here, missed⟩ := List.findSome?_eq_some_iff.1 ended
    obtain ⟨occupied, stands⟩ := evaluatedAt?_eq_some_iff.1 here
    refine ⟨occupied, keys, stands, fun some => ?_⟩
    refine List.findSome?_eq_some_iff.2 ⟨before, keys, after, split,
      evaluatedAt?_eq_some_iff.2 ⟨some, rfl⟩, fun earlier member => ?_⟩
    exact never earlier (missed earlier member)

end Node
end RequestRouting
