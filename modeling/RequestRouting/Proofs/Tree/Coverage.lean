import RequestRouting.Proofs.Segment.Alignment
import RequestRouting.Proofs.Tree.Entries
import RequestRouting.Proofs.Tree.PlainSearch

/-!
# What a search covers

The plain search finds something exactly if there is a candidate at the end of segments that it
comes along, as `Reaches` says (`plainSearch?_isSome_iff`). No order of trying and no way back
matters for this, so that the question of which routes a tree finds is one of segments alone.
-/

namespace RequestRouting

/-! ## Steps of a search -/

/-- The segments of a request from a place on. -/
def Cursor.onward (cursor : Cursor) : List Segment :=
  cursor.segment :: cursor.following

theorem Chain.onward_cursor (chain : Chain) : chain.cursor.onward = chain.segments :=
  List.cons_head_tail chain.nonempty

theorem Cursor.mem_startingAt {position : Nat} {segments path : List Segment} :
    (∃ resumed ∈ startingAt position segments, resumed.onward = path) ↔
      path ≠ [] ∧ ∃ taken, segments = taken ++ path := by
  induction segments generalizing position with
  | nil =>
      have none : ∀ taken, [] = taken ++ path → path = [] :=
        fun taken split => (List.append_eq_nil_iff.1 split.symm).2
      simp only [startingAt, List.not_mem_nil, false_and, exists_false, false_iff]
      rintro ⟨some, taken, split⟩
      exact some (none taken split)
  | cons segment following ih =>
      simp only [startingAt, List.mem_cons, exists_eq_or_imp, ih]
      constructor
      · rintro (rfl | ⟨some, taken, rfl⟩)
        · exact ⟨List.cons_ne_nil _ _, [], rfl⟩
        · exact ⟨some, segment :: taken, rfl⟩
      · rintro ⟨some, taken, split⟩
        cases taken with
        | nil => exact .inl split
        | cons first taken => exact .inr ⟨some, taken, (List.cons.inj split).2⟩

/-- The places from a place on are those of the ends of the segments there. -/
theorem Cursor.mem_remaining {cursor : Cursor} {path : List Segment} :
    (∃ resumed ∈ cursor.remaining, resumed.onward = path) ↔
      path ≠ [] ∧ ∃ taken, cursor.onward = taken ++ path := by
  have all : cursor.remaining = startingAt cursor.position cursor.onward := rfl
  rw [all, mem_startingAt]

/-- Whether the search below a child, which is tried by a style for the segment at a place, comes
along some segments. -/
def Follows (style : SegmentStyle) (cursor : Cursor) (segments : List Segment) : Prop :=
  if style = .doubleWildcard then
    Ends segments ∨ ∃ resumed ∈ cursor.remaining, Reaches segments resumed.onward
  else
    match cursor.next? with
    | none => Ends segments
    | some next => Reaches segments next.onward

theorem probe?_doubleWildcard_eq_some {segment taken : Segment} (canonical : segment.IsCanonical) :
    Node.probe? .doubleWildcard taken = some segment.text ↔ segment.isOpen = true := by
  rw [Segment.isOpen, beq_iff_eq, ← canonical .doubleWildcard _ rfl]
  exact ⟨fun same => (Option.some.inj same).symm, fun same => congrArg some same.symm⟩

/-- A search comes along segments by trying the first and following the others. -/
theorem reaches_cons_iff {segment : Segment} {segments : List Segment} {cursor : Cursor}
    (canonical : segment.IsCanonical) :
    Reaches (segment :: segments) cursor.onward ↔
      ∃ style, Node.probe? style cursor.segment = some segment.text ∧
        Follows style cursor segments := by
  obtain ⟨position, here, following⟩ := cursor
  constructor
  · intro reaches
    generalize whole : Cursor.onward ⟨position, here, following⟩ = path at reaches
    cases reaches with
    | last tried ends =>
        obtain ⟨rfl, rfl⟩ := List.cons.inj whole
        obtain ⟨style, closed, probe⟩ := tried
        exact ⟨style, probe, by rwa [Follows, if_neg closed]⟩
    | next tried reaches =>
        obtain ⟨rfl, rfl⟩ := List.cons.inj whole
        obtain ⟨style, closed, probe⟩ := tried
        exact ⟨style, probe, by rwa [Follows, if_neg closed]⟩
    | all opened ends =>
        refine ⟨.doubleWildcard, (probe?_doubleWildcard_eq_some canonical).2 opened, ?_⟩
        exact .inl ends
    | some taken opened reaches =>
        refine ⟨.doubleWildcard, (probe?_doubleWildcard_eq_some canonical).2 opened, .inr ?_⟩
        obtain ⟨resumed, member, onward⟩ :=
          Cursor.mem_remaining.2 ⟨reaches.ne_nil, taken, whole⟩
        exact ⟨resumed, member, onward ▸ reaches⟩
  · rintro ⟨style, probe, follows⟩
    by_cases opened : style = .doubleWildcard
    · subst opened
      have opened := (probe?_doubleWildcard_eq_some canonical).1 probe
      rcases follows with ends | ⟨resumed, member, reaches⟩
      · exact .all opened ends
      · obtain ⟨-, taken, split⟩ := Cursor.mem_remaining.1 ⟨resumed, member, rfl⟩
        rw [split]
        exact .some taken opened reaches
    · rw [Follows, if_neg opened] at follows
      cases following with
      | nil => exact .last ⟨style, opened, probe⟩ follows
      | cons next others => exact .next ⟨style, opened, probe⟩ follows

/-! ## Ways below a node -/

namespace Node

/-- Whether there are candidates below a node, at the end of segments with a property. -/
def FindsAlong (evaluate : List RouteEntry → List Candidate) (node : Node RouteEntry)
    (along : List Segment → Prop) : Prop :=
  ∃ segments, (∀ segment ∈ segments, segment.IsCanonical) ∧ along segments ∧
    evaluate (node.entriesAt (segments.map (·.text))) ≠ []

variable {evaluate : List RouteEntry → List Candidate} {node child : Node RouteEntry}

theorem findsAlong_or {first second : List Segment → Prop} :
    node.FindsAlong evaluate (fun segments => first segments ∨ second segments) ↔
      node.FindsAlong evaluate first ∨ node.FindsAlong evaluate second := by
  constructor
  · rintro ⟨segments, canonical, along | along, some⟩
    · exact .inl ⟨segments, canonical, along, some⟩
    · exact .inr ⟨segments, canonical, along, some⟩
  · rintro (⟨segments, canonical, along, some⟩ | ⟨segments, canonical, along, some⟩)
    · exact ⟨segments, canonical, .inl along, some⟩
    · exact ⟨segments, canonical, .inr along, some⟩

theorem findsAlong_exists {resume : List Cursor} {along : Cursor → List Segment → Prop} :
    node.FindsAlong evaluate (fun segments => ∃ resumed ∈ resume, along resumed segments) ↔
      ∃ resumed ∈ resume, node.FindsAlong evaluate (along resumed) := by
  constructor
  · rintro ⟨segments, canonical, ⟨resumed, member, along⟩, some⟩
    exact ⟨resumed, member, segments, canonical, along, some⟩
  · rintro ⟨resumed, member, segments, canonical, along, some⟩
    exact ⟨segments, canonical, ⟨resumed, member, along⟩, some⟩

theorem evaluated?_isSome_iff : (node.evaluated? evaluate).isSome ↔ evaluate node.entries ≠ [] := by
  unfold evaluated?
  cases evaluate node.entries <;> simp

/-- A walk that ends at a node finds what stands there and below a child `**`. -/
theorem plainTerminal?_isSome_iff (nothing : evaluate [] = []) :
    (node.plainTerminal? evaluate).isSome ↔ node.FindsAlong evaluate Ends := by
  have trailing : ((node.child? Segment.doubleWildcard.text).bind (evaluated? evaluate)).isSome ↔
      evaluate (node.entriesAt [Segment.doubleWildcard.text]) ≠ [] := by
    rw [entriesAt_cons]
    cases node.child? Segment.doubleWildcard.text with
    | none => simp [nothing]
    | some child => exact evaluated?_isSome_iff
  rw [plainTerminal?, Option.isSome_or, Bool.or_eq_true, evaluated?_isSome_iff, trailing]
  constructor
  · rintro (here | below)
    · exact ⟨[], by simp, .inl rfl, here⟩
    · refine ⟨[.doubleWildcard], ?_, .inr ⟨_, rfl, rfl⟩, below⟩
      intro segment member
      rw [List.mem_singleton.1 member]
      exact Segment.isCanonical_of_key rfl
  · rintro ⟨segments, canonical, rfl | ⟨segment, rfl, opened⟩, some⟩
    · exact .inl some
    · have key : segment.text = Segment.doubleWildcard.text :=
        (canonical segment List.mem_cons_self .doubleWildcard _ rfl).2
          (by simpa [Segment.isOpen] using opened)
      rw [List.map_singleton, key] at some
      exact .inr some

/-- Below a child that is tried for a segment, a search finds what it finds along the segments
that follow. -/
theorem plainFollow?_isSome_iff (nothing : evaluate [] = [])
    (below : ∀ cursor, (child.plainSearch? evaluate cursor).isSome ↔
      child.FindsAlong evaluate fun segments => Reaches segments cursor.onward)
    (style : SegmentStyle) (cursor : Cursor) :
    (child.plainFollow? evaluate style cursor).isSome ↔
      child.FindsAlong evaluate (Follows style cursor) := by
  have ends : (child.plainTerminal? evaluate).isSome ↔ child.FindsAlong evaluate Ends :=
    plainTerminal?_isSome_iff nothing
  unfold plainFollow? Follows
  by_cases opened : style = .doubleWildcard
  · -- the last of the three attempts makes the first one superfluous
    simp only [if_pos opened, findsAlong_or, findsAlong_exists, ← ends, ← below]
    cases found : child.plainTerminal? evaluate with
    | some candidates => simp
    | none => simp [List.findSome?_isSome_iff]
  · simp only [if_neg opened]
    cases cursor.next? with
    | none => exact ends
    | some next => exact below next

/-- Segments that lead to candidates begin with that of a child that is tried. -/
theorem exists_probed_of_reaches (nothing : evaluate [] = []) {segment : Segment}
    {segments : List Segment} {cursor : Cursor} (canonical : segment.IsCanonical)
    (reaches : Reaches (segment :: segments) cursor.onward)
    (some : evaluate (node.entriesAt ((segment :: segments).map (·.text))) ≠ []) :
    ∃ style child, probe? style cursor.segment = Option.some segment.text ∧
      node.probed? style cursor.segment = Option.some child ∧ Follows style cursor segments ∧
      evaluate (child.entriesAt (segments.map (·.text))) ≠ [] := by
  obtain ⟨style, probe, follows⟩ := (reaches_cons_iff canonical).1 reaches
  rw [List.map_cons, entriesAt_cons] at some
  -- there is a candidate below the child, so that there is a child
  cases found : node.child? segment.text with
  | none =>
      rw [found] at some
      exact absurd nothing some
  | some child =>
      rw [found] at some
      exact ⟨style, child, probe, by rw [probed?, probe, Option.bind_some, found], follows, some⟩

/-- What is found along segments is found below the child that is tried for the first. -/
theorem findsAlong_reaches_iff (nothing : evaluate [] = []) (canonical : node.Canonical)
    (cursor : Cursor) :
    (node.FindsAlong evaluate fun segments => Reaches segments cursor.onward) ↔
      ∃ style child, node.probed? style cursor.segment = some child ∧
        child.FindsAlong evaluate (Follows style cursor) := by
  constructor
  · rintro ⟨segments, canonicalSegments, reaches, some⟩
    cases segments with
    | nil => cases reaches
    | cons segment segments =>
        obtain ⟨style, child, -, probed, follows, some⟩ := exists_probed_of_reaches nothing
          (canonicalSegments _ List.mem_cons_self) reaches some
        exact ⟨style, child, probed, segments,
          fun segment member => canonicalSegments segment (List.mem_cons_of_mem _ member),
          follows, some⟩
  · rintro ⟨style, child, probed, segments, canonicalSegments, follows, some⟩
    have here : child.segment.IsCanonical := canonical.here child (mem_of_probed? probed)
    have probe := key_of_probed? probed
    refine ⟨child.segment :: segments, ?_, (reaches_cons_iff here).2 ⟨style, probe, follows⟩, ?_⟩
    · intro segment member
      rcases List.mem_cons.1 member with rfl | later
      · exact here
      · exact canonicalSegments segment later
    · have found : node.child? child.key = Option.some child := by
        rwa [probed?, probe] at probed
      rw [List.map_cons, entriesAt_cons, show child.segment.text = child.key from rfl, found]
      exact some

/-- A search tries every style, if the others find nothing. -/
theorem plainSearch?_isSome_iff_attempt (cursor : Cursor) :
    (node.plainSearch? evaluate cursor).isSome ↔
      ∃ style, (node.plainAttempt? evaluate style cursor).isSome := by
  rw [plainSearch?_eq]
  simp only [Option.isSome_or, Bool.or_eq_true]
  constructor
  · rintro (found | found | found | found) <;> exact ⟨_, found⟩
  · rintro ⟨style, found⟩
    cases style with
    | literal => exact .inl found
    | parameter => exact .inr (.inl found)
    | wildcard => exact .inr (.inr (.inl found))
    | doubleWildcard => exact .inr (.inr (.inr found))

/-- A search finds something exactly if there is a candidate at the end of segments that it comes
along. -/
theorem plainSearch?_isSome_iff (nothing : evaluate [] = []) (canonical : node.Canonical)
    (cursor : Cursor) :
    (node.plainSearch? evaluate cursor).isSome ↔
      node.FindsAlong evaluate fun segments => Reaches segments cursor.onward := by
  induction node using child_induction generalizing cursor with
  | inherit node ih =>
      rw [plainSearch?_isSome_iff_attempt, findsAlong_reaches_iff nothing canonical]
      refine exists_congr fun style => ?_
      rw [plainAttempt?]
      cases probed : node.probed? style cursor.segment with
      | none => simp
      | some child =>
          have member := mem_of_probed? probed
          rw [Option.bind_some, plainFollow?_isSome_iff nothing
            (fun cursor => ih child member (canonical.child member) cursor)]
          simp

end Node
end RequestRouting
