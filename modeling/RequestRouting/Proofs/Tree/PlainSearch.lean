import RequestRouting.Proofs.Tree.Search

/-!
# Searching without shortcuts

The plain search tries all four styles at every node and evaluates all routes wherever it ends.
On a tree whose marks are right it finds what `Node.search` finds (`search_agrees`): styles that
are left out have no child to try, and a route that was rejected once would be rejected again,
as all entries of a route have one pattern and the same conditions.
-/

namespace RequestRouting
namespace Node

/-- The candidates among the routes that end at a node, if there are any. -/
def evaluated? (evaluate : List RouteEntry → List Candidate) (node : Node RouteEntry) :
    Option (List Candidate) :=
  match evaluate node.entries with
  | [] => none
  | candidates => some candidates

/-- The candidates where a walk ends at a node, those of a child `**` in the second place. -/
def plainTerminal? (evaluate : List RouteEntry → List Candidate) (node : Node RouteEntry) :
    Option (List Candidate) :=
  (node.evaluated? evaluate).or
    ((node.child? Segment.doubleWildcard.text).bind (evaluated? evaluate))

mutual
/-- Matches the segment at a cursor with the children of a node, by all four styles. -/
def plainSearch? (evaluate : List RouteEntry → List Candidate) (cursor : Cursor) :
    Node RouteEntry → Option (List Candidate)
  | ⟨_, _, _, children⟩ =>
    (plainStyle? evaluate .literal cursor children).or <|
      (plainStyle? evaluate .parameter cursor children).or <|
        (plainStyle? evaluate .wildcard cursor children).or <|
          plainStyle? evaluate .doubleWildcard cursor children

/-- Matches the segment at a cursor with the child that has the key of a style. -/
def plainStyle? (evaluate : List RouteEntry → List Candidate) (style : SegmentStyle)
    (cursor : Cursor) : List (Node RouteEntry) → Option (List Candidate)
  | [] => none
  | child :: children =>
    if probe? style cursor.segment = some child.key then
      if style = .doubleWildcard then
        let atEnd := if cursor.isLast then child.plainTerminal? evaluate else none
        let below := cursor.remaining.findSome? fun resumed => child.plainSearch? evaluate resumed
        (atEnd.or below).or (child.plainTerminal? evaluate)
      else
        match cursor.next? with
        | none => child.plainTerminal? evaluate
        | some next => child.plainSearch? evaluate next
    else plainStyle? evaluate style cursor children
end

/-- Goes on, without shortcuts, at the child that is tried for the segment at a cursor. -/
def plainFollow? (evaluate : List RouteEntry → List Candidate) (style : SegmentStyle)
    (cursor : Cursor) (child : Node RouteEntry) : Option (List Candidate) :=
  if style = .doubleWildcard then
    let atEnd := if cursor.isLast then child.plainTerminal? evaluate else none
    let below := cursor.remaining.findSome? fun resumed => child.plainSearch? evaluate resumed
    (atEnd.or below).or (child.plainTerminal? evaluate)
  else
    match cursor.next? with
    | none => child.plainTerminal? evaluate
    | some next => child.plainSearch? evaluate next

/-- Tries one style for the segment at a cursor, without shortcuts. -/
def plainAttempt? (evaluate : List RouteEntry → List Candidate) (style : SegmentStyle)
    (cursor : Cursor) (node : Node RouteEntry) : Option (List Candidate) :=
  (node.probed? style cursor.segment).bind (plainFollow? evaluate style cursor)

variable {evaluate : List RouteEntry → List Candidate} {node child : Node RouteEntry}
  {style : SegmentStyle}

theorem plainStyle?_children (cursor : Cursor) :
    plainStyle? evaluate style cursor node.children = node.plainAttempt? evaluate style cursor := by
  have through : plainStyle? evaluate style cursor node.children =
      (node.probed? style cursor.segment).elim none (plainFollow? evaluate style cursor) :=
    eq_of_probing (by rw [plainStyle?]) fun _ _ => by rw [plainStyle?]; rfl
  rw [through, plainAttempt?]
  cases node.probed? style cursor.segment <;> rfl

theorem plainSearch?_eq (cursor : Cursor) :
    node.plainSearch? evaluate cursor =
      ((node.plainAttempt? evaluate .literal cursor).or <|
        (node.plainAttempt? evaluate .parameter cursor).or <|
          (node.plainAttempt? evaluate .wildcard cursor).or <|
            node.plainAttempt? evaluate .doubleWildcard cursor) := by
  obtain ⟨own, uncertain, entries, children⟩ := node
  rw [plainSearch?]
  simp only [← plainStyle?_children]

end Node

/-- The outcome of searching a tree without shortcuts. -/
def PatternTree.plainLookup? (tree : PatternTree RouteEntry) (chain : Chain) (request : Request)
    (path : String) : Option MatchResult :=
  (tree.root.plainSearch? (candidates request path) chain.cursor).map
    (select request .tree Candidate.compareConditions)

/-! ## Agreement -/

/-- Whether a walk ended where the plain search ended, and rejected no route that could still be
a candidate. -/
def Walk.Agrees (sound : List RouteId → Prop) (plain : Option (List Candidate)) : Walk → Prop
  | found candidates => plain = some candidates
  | missed rejected => plain = none ∧ sound rejected

namespace Walk

/-- The candidates at which a walk ended, if it ended at some. -/
def candidates? : Walk → Option (List Candidate)
  | found candidates => some candidates
  | missed _ => none

variable {sound : List RouteId → Prop} {walk : Walk} {plain plainNext : Option (List Candidate)}

theorem Agrees.candidates? (agrees : walk.Agrees sound plain) : walk.candidates? = plain := by
  cases walk with
  | found candidates => exact agrees.symm
  | missed rejected => exact agrees.1.symm

theorem Agrees.orElse {next : List RouteId → Walk} (agrees : walk.Agrees sound plain)
    (agreesNext : ∀ rejected, sound rejected → (next rejected).Agrees sound plainNext) :
    (walk.orElse next).Agrees sound (plain.or plainNext) := by
  cases walk with
  | found candidates =>
      obtain rfl : plain = some candidates := agrees
      rfl
  | missed rejected =>
      obtain ⟨rfl, ok⟩ : plain = none ∧ sound rejected := agrees
      exact agreesNext rejected ok

theorem Agrees.foldl {α : Type} (attempt : α → List RouteId → Walk)
    {plainAttempt : α → Option (List Candidate)} {attempts : List α}
    (agreesAttempt : ∀ a rejected, sound rejected →
      (attempt a rejected).Agrees sound (plainAttempt a))
    (agrees : walk.Agrees sound plain) :
    (attempts.foldl (fun walk a => walk.orElse (attempt a)) walk).Agrees sound
      (plain.or (attempts.findSome? plainAttempt)) := by
  induction attempts generalizing walk plain with
  | nil => simpa using agrees
  | cons a attempts ih =>
      have first := ih (agrees.orElse fun rejected ok => agreesAttempt a rejected ok)
      have same : (a :: attempts).findSome? plainAttempt =
          (plainAttempt a).or (attempts.findSome? plainAttempt) := by
        rw [List.findSome?_cons]
        cases plainAttempt a <;> rfl
      rwa [same, ← Option.or_assoc]

end Walk

/-- Whether all entries with the id of a rejected route, of those in a list, are no candidates. -/
def RejectedRightly (evaluate : List RouteEntry → List Candidate) (entries : List RouteEntry)
    (rejected : List RouteId) : Prop :=
  ∀ entry ∈ entries, entry.id ∈ rejected → evaluate [entry] = []

/-- What a search relies on: entries are evaluated one by one, and those of a route alike. -/
structure EvaluatesRoutes (evaluate : List RouteEntry → List Candidate)
    (entries : List RouteEntry) : Prop where
  each : ∀ some, evaluate some = some.flatMap fun entry => evaluate [entry]
  alike : ∀ a ∈ entries, ∀ b ∈ entries, a.id = b.id → evaluate [a] = [] → evaluate [b] = []

namespace Node

variable {evaluate : List RouteEntry → List Candidate} {entries : List RouteEntry}
  {node child : Node RouteEntry} {rejected : List RouteId}

/-- Leaving out routes that were rejected rightly changes no evaluation. -/
theorem evaluate_filter_rejected (evaluates : EvaluatesRoutes evaluate entries)
    (held : ∀ entry ∈ node.entries, entry ∈ entries)
    (rightly : RejectedRightly evaluate entries rejected) :
    evaluate (node.entries.filter fun entry => !rejected.contains entry.id) =
      evaluate node.entries := by
  rw [evaluates.each, evaluates.each node.entries]
  revert held
  induction node.entries with
  | nil => exact fun _ => rfl
  | cons entry rest ih =>
      intro held
      have rest := ih fun entry member => held entry (List.mem_cons_of_mem _ member)
      rw [List.filter_cons]
      split
      · rw [List.flatMap_cons, List.flatMap_cons, rest]
      · rename_i dropped
        have none := rightly entry (held entry List.mem_cons_self) (by simpa using dropped)
        rw [List.flatMap_cons, rest, none, List.nil_append]

theorem mem_foldl_insert {id : RouteId}
    (member : id ∈ node.entries.foldl (fun rejected entry => rejected.insert entry.id) rejected) :
    id ∈ rejected ∨ ∃ entry ∈ node.entries, entry.id = id := by
  revert member
  induction node.entries generalizing rejected with
  | nil => exact fun member => .inl member
  | cons entry rest ih =>
      intro member
      rcases ih member with inserted | ⟨later, laterMember, same⟩
      · rcases List.mem_insert_iff.1 inserted with same | before
        · exact .inr ⟨entry, List.mem_cons_self, same.symm⟩
        · exact .inl before
      · exact .inr ⟨later, List.mem_cons_of_mem _ laterMember, same⟩

theorem validate_agrees (evaluates : EvaluatesRoutes evaluate entries)
    (held : ∀ entry ∈ node.entries, entry ∈ entries)
    (rightly : RejectedRightly evaluate entries rejected) :
    (node.validate evaluate rejected).Agrees (RejectedRightly evaluate entries)
      (node.evaluated? evaluate) := by
  unfold validate evaluated?
  rw [evaluate_filter_rejected evaluates held rightly]
  cases none : evaluate node.entries with
  | cons candidate others => rfl
  | nil =>
      refine ⟨rfl, fun entry member isRejected => ?_⟩
      rcases mem_foldl_insert isRejected with before | ⟨own, ownMember, same⟩
      · exact rightly entry member before
      · -- the route of the entry ends at this node, where nothing was found
        rw [evaluates.each, List.flatMap_eq_nil_iff] at none
        exact evaluates.alike own (held own ownMember) entry member same (none own ownMember)

theorem terminal_agrees (evaluates : EvaluatesRoutes evaluate entries)
    (held : node.Everywhere fun node => ∀ entry ∈ node.entries, entry ∈ entries)
    (rightly : RejectedRightly evaluate entries rejected) :
    (node.terminal evaluate rejected).Agrees (RejectedRightly evaluate entries)
      (node.plainTerminal? evaluate) := by
  refine (validate_agrees evaluates held.here rightly).orElse fun rejected rightly => ?_
  cases found : node.child? Segment.doubleWildcard.text with
  | none => exact ⟨rfl, rightly⟩
  | some trailing =>
      exact validate_agrees evaluates (held.child (mem_of_child? found)).here rightly

/-- What agrees with the plain search below a child agrees with it where the child is tried. -/
theorem follow_agrees (evaluates : EvaluatesRoutes evaluate entries)
    (held : child.Everywhere fun node => ∀ entry ∈ node.entries, entry ∈ entries)
    (below : ∀ cursor rejected, RejectedRightly evaluate entries rejected →
      (child.search evaluate cursor rejected).Agrees (RejectedRightly evaluate entries)
        (child.plainSearch? evaluate cursor))
    (style : SegmentStyle) (cursor : Cursor) (rightly : RejectedRightly evaluate entries rejected) :
    (child.follow evaluate style cursor rejected).Agrees (RejectedRightly evaluate entries)
      (child.plainFollow? evaluate style cursor) := by
  have ends : ∀ rejected, RejectedRightly evaluate entries rejected →
      (child.terminal evaluate rejected).Agrees (RejectedRightly evaluate entries)
        (child.plainTerminal? evaluate) := fun _ => terminal_agrees evaluates held
  unfold follow plainFollow?
  split
  · refine (Walk.Agrees.foldl (fun resumed rejected => child.search evaluate resumed rejected)
      below ?_).orElse ends
    split
    · exact ends rejected rightly
    · exact ⟨rfl, rightly⟩
  · cases cursor.next? with
    | none => exact ends rejected rightly
    | some next => exact below next rejected rightly

/-- The keys that are tried besides the text of a segment are those of styles. -/
theorem canonicalKey?_of_probe? {style : SegmentStyle} {segment : Segment} {key : String}
    (uncertain : style ≠ .literal) (probe : probe? style segment = some key) :
    style.canonicalKey? = some key := by
  cases style with
  | literal => exact absurd rfl uncertain
  | parameter =>
      simp only [probe?, Option.ite_none_left_eq_some] at probe
      exact probe.2
  | wildcard => exact probe
  | doubleWildcard => exact probe

/-- A node without a mark has no child for any style but the literal one. -/
theorem plainAttempt?_of_not_uncertain {style : SegmentStyle} (marked : node.Marked)
    (canonical : node.Canonical) (unmarked : node.uncertain = false) (uncertain : style ≠ .literal)
    (cursor : Cursor) : node.plainAttempt? evaluate style cursor = none := by
  unfold plainAttempt?
  cases probed : node.probed? style cursor.segment with
  | none => rfl
  | some child =>
      have member := mem_of_probed? probed
      have key := canonicalKey?_of_probe? uncertain (key_of_probed? probed)
      have sameStyle : child.segment.style = style :=
        (canonical.here child member style _ key).1 rfl
      have isUncertain : child.segment.style.isUncertain = true := by
        rw [sameStyle]
        cases style with
        | literal => exact absurd rfl uncertain
        | parameter | wildcard | doubleWildcard => rfl
      have mark : anyUncertain node.children = true :=
        List.any_eq_true.2 ⟨child, member, isUncertain⟩
      rw [← marked.here, unmarked] at mark
      exact absurd mark Bool.false_ne_true

/-- On a tree whose marks are right a search finds what the plain search finds. -/
theorem search_agrees (evaluates : EvaluatesRoutes evaluate entries) (marked : node.Marked)
    (canonical : node.Canonical)
    (held : node.Everywhere fun node => ∀ entry ∈ node.entries, entry ∈ entries) (cursor : Cursor)
    (rightly : RejectedRightly evaluate entries rejected) :
    (node.search evaluate cursor rejected).Agrees (RejectedRightly evaluate entries)
      (node.plainSearch? evaluate cursor) := by
  induction node using child_induction generalizing cursor rejected with
  | inherit node ih =>
      have attempts : ∀ style rejected, RejectedRightly evaluate entries rejected →
          (node.attempt evaluate style cursor rejected).Agrees (RejectedRightly evaluate entries)
            (node.plainAttempt? evaluate style cursor) := by
        intro style rejected rightly
        unfold attempt plainAttempt?
        cases probed : node.probed? style cursor.segment with
        | none => exact ⟨rfl, rightly⟩
        | some child =>
            have member := mem_of_probed? probed
            exact follow_agrees evaluates (held.child member)
              (fun cursor rejected => ih child member (marked.child member) (canonical.child member)
                (held.child member) cursor) style cursor rightly
      rw [search_eq, plainSearch?_eq]
      refine (attempts .literal rejected rightly).orElse fun rejected rightly => ?_
      -- an unmarked node is not searched further, and the plain search finds nothing there
      cases mark : node.uncertain with
      | true =>
          exact (attempts .parameter rejected rightly).orElse fun rejected rightly =>
            (attempts .wildcard rejected rightly).orElse fun rejected rightly =>
              attempts .doubleWildcard rejected rightly
      | false =>
          have nothing : ∀ style, style ≠ .literal →
              node.plainAttempt? evaluate style cursor = none :=
            fun style uncertain =>
              plainAttempt?_of_not_uncertain marked canonical mark uncertain cursor
          rw [nothing .parameter (by decide), nothing .wildcard (by decide),
            nothing .doubleWildcard (by decide)]
          exact ⟨rfl, rightly⟩

end Node
end RequestRouting
