import RequestRouting.Proofs.Segment.Chain
import RequestRouting.Proofs.Tree.Coverage

/-!
# What a search finds first

At every node a search tries the strongest style first and goes back to the next one only if
nothing is found below. The segments that lead to the candidates it finds therefore stand before
all others that lead to candidates: at the first difference they have the stronger style, or they
end there (`plainSearch?_findsFirst`). Below a multi-segment wildcard this order is given up, since
what counts there is how many segments of the request the wildcard takes.

Where literal segments alone lead to routes that answer, these are found before anything else
(`search_of_at?`).
-/

namespace RequestRouting

/-! ## The order of chains -/

/-- The place of a style among all styles, of which the strongest has the first. -/
def SegmentStyle.rank (style : SegmentStyle) : Nat :=
  all.idxOf style

theorem SegmentStyle.rank_injective : Function.Injective rank := by
  intro a b same
  cases a <;> cases b <;> first | rfl | exact absurd same (by decide)

/-- Whether segments stand before others at the first difference, as they end there or have the
stronger style. Nothing is said about what follows a multi-segment wildcard that both have. -/
inductive Precedes : List Segment → List Segment → Prop
  | ends {others} : Precedes [] others
  | stronger {segment other segments others} : segment.style.rank < other.style.rank →
      Precedes (segment :: segments) (other :: others)
  | same {segment segments others} : (segment.isOpen = false → Precedes segments others) →
      Precedes (segment :: segments) (segment :: others)

/-- What follows a common beginning without multi-segment wildcards is decided by its first
segments, if these differ. -/
theorem Precedes.at_difference {common left right : List Segment}
    (precedes : Precedes (common ++ left) (common ++ right))
    (closed : ∀ segment ∈ common, segment.isOpen = false) (differ : left.head? ≠ right.head?) :
    left = [] ∨ ∃ mine ∈ left.head?, ∃ other ∈ right.head?, mine.style.rank < other.style.rank := by
  induction common with
  | nil =>
      cases precedes with
      | ends => exact .inl rfl
      | stronger stronger => exact .inr ⟨_, rfl, _, rfl, stronger⟩
      | same => exact absurd rfl differ
  | cons segment common ih =>
      cases precedes with
      | stronger stronger => exact absurd stronger (Nat.lt_irrefl _)
      | same later =>
          exact ih (later (closed segment List.mem_cons_self))
            fun segment member => closed segment (List.mem_cons_of_mem _ member)

/-! ## Steps of a search -/

/-- A plain segment leads to a child of the style by which it is tried. -/
theorem style_of_probe? {segment taken : Segment} {style : SegmentStyle} (plain : taken.IsPlain)
    (canonical : segment.IsCanonical) (probe : Node.probe? style taken = some segment.text) :
    segment.style = style := by
  cases style with
  | literal =>
      refine canonical.style_of_isPlain fun style => ?_
      rw [← probe]
      exact plain style
  | parameter =>
      simp only [Node.probe?, Option.ite_none_left_eq_some, Option.some.injEq] at probe
      exact (canonical .parameter _ rfl).1 probe.2.symm
  | wildcard => exact (canonical .wildcard _ rfl).1 (Option.some.inj probe).symm
  | doubleWildcard => exact (canonical .doubleWildcard _ rfl).1 (Option.some.inj probe).symm

namespace Node

variable {evaluate : List RouteEntry → List Candidate} {node child : Node RouteEntry}
  {style : SegmentStyle} {found : List Candidate} {cursor : Cursor}

/-- Whether candidates are found at the end of segments with a property, and these segments stand
before all others with this property that lead to candidates. -/
def FindsFirst (evaluate : List RouteEntry → List Candidate) (node : Node RouteEntry)
    (along : List Segment → Prop) (before : List Segment → List Segment → Prop)
    (found : List Candidate) : Prop :=
  ∃ segments, (∀ segment ∈ segments, segment.IsCanonical) ∧ along segments ∧
    evaluate (node.entriesAt (segments.map (·.text))) = found ∧
    ∀ others, (∀ segment ∈ others, segment.IsCanonical) → along others →
      evaluate (node.entriesAt (others.map (·.text))) ≠ [] → before segments others

theorem evaluated?_eq_some (ended : node.evaluated? evaluate = some found) :
    evaluate node.entries = found ∧ found ≠ [] := by
  unfold evaluated? at ended
  split at ended
  · simp at ended
  · rename_i some
    obtain rfl := Option.some.inj ended
    exact ⟨rfl, some⟩

theorem evaluated?_eq_none (ended : node.evaluated? evaluate = none) :
    evaluate node.entries = [] := by
  unfold evaluated? at ended
  split at ended
  · assumption
  · simp at ended

/-- Where a walk ends, the entries of the node itself come before those of a child `**`. -/
theorem plainTerminal?_findsFirst (ended : node.plainTerminal? evaluate = some found) :
    node.FindsFirst evaluate Ends Precedes found := by
  unfold plainTerminal? at ended
  rcases Option.or_eq_some_iff.1 ended with here | ⟨nothing, below⟩
  · exact ⟨[], by simp, .inl rfl, (evaluated?_eq_some here).1, fun _ _ _ _ => .ends⟩
  · obtain ⟨trailing, child, there⟩ := Option.bind_eq_some_iff.1 below
    have canonical : Segment.doubleWildcard.IsCanonical := Segment.isCanonical_of_key rfl
    refine ⟨[.doubleWildcard], by simpa using canonical, .inr ⟨_, rfl, rfl⟩, ?_, ?_⟩
    · rw [List.map_singleton, entriesAt_cons, child]
      exact (evaluated?_eq_some there).1
    · intro others canonicalOthers ends some
      rcases ends with rfl | ⟨segment, rfl, opened⟩
      · exact absurd (evaluated?_eq_none nothing) some
      · have same : segment.text = Segment.doubleWildcard.text :=
          (canonicalOthers segment List.mem_cons_self .doubleWildcard _ rfl).2
            (by simpa [Segment.isOpen] using opened)
        rw [(canonicalOthers segment List.mem_cons_self).eq_of_text canonical same]
        exact .same fun _ => .ends

/-- What is found along some segments is found along more of them, if the order does not count. -/
theorem FindsFirst.unordered {along more : List Segment → Prop}
    {before before' : List Segment → List Segment → Prop}
    (finds : node.FindsFirst evaluate along before found)
    (wider : ∀ segments, along segments → more segments)
    (any : ∀ segments others, before' segments others) :
    node.FindsFirst evaluate more before' found := by
  obtain ⟨segments, canonical, here, there, -⟩ := finds
  exact ⟨segments, canonical, wider segments here, there, fun others _ _ _ => any segments others⟩

/-- Below a child that is tried for a segment the order is kept, unless the child may take more
than this segment. -/
theorem plainFollow?_findsFirst
    (below : ∀ resumed found, (∀ taken ∈ resumed.onward, taken ∈ cursor.onward) →
      child.plainSearch? evaluate resumed = some found →
      child.FindsFirst evaluate (fun segments => Reaches segments resumed.onward) Precedes found)
    (ended : child.plainFollow? evaluate style cursor = some found) :
    child.FindsFirst evaluate (Follows style cursor)
      (fun segments others => style ≠ .doubleWildcard → Precedes segments others) found := by
  unfold plainFollow? at ended
  unfold Follows
  by_cases opened : style = .doubleWildcard
  · simp only [if_pos opened] at ended ⊢
    have anyOrder : ∀ segments others, style ≠ .doubleWildcard → Precedes segments others :=
      fun _ _ closed => absurd opened closed
    have atEnd : child.plainTerminal? evaluate = some found →
        child.FindsFirst evaluate (fun segments => Ends segments ∨
            ∃ resumed ∈ cursor.remaining, Reaches segments resumed.onward)
          (fun segments others => style ≠ .doubleWildcard → Precedes segments others) found :=
      fun ended => (plainTerminal?_findsFirst ended).unordered (fun _ => .inl) anyOrder
    rcases Option.or_eq_some_iff.1 ended with early | ⟨-, late⟩
    · rcases Option.or_eq_some_iff.1 early with last | ⟨-, resumedSearch⟩
      · exact atEnd (Option.ite_none_right_eq_some.1 last).2
      · obtain ⟨resumed, member, search⟩ := List.exists_of_findSome?_eq_some resumedSearch
        obtain ⟨-, taken, split⟩ := Cursor.mem_remaining.1 ⟨resumed, member, rfl⟩
        refine (below resumed found ?_ search).unordered
          (fun segments reaches => .inr ⟨resumed, member, reaches⟩) anyOrder
        intro segment later
        rw [split]
        exact List.mem_append_right _ later
    · exact atEnd late
  · simp only [if_neg opened] at ended ⊢
    have ordered : ∀ {along}, child.FindsFirst evaluate along Precedes found →
        child.FindsFirst evaluate along
          (fun segments others => style ≠ .doubleWildcard → Precedes segments others) found := by
      rintro along ⟨segments, canonical, here, there, first⟩
      exact ⟨segments, canonical, here, there, fun others canonical along some _ =>
        first others canonical along some⟩
    obtain ⟨position, taken, following⟩ := cursor
    cases following with
    | nil => exact ordered (plainTerminal?_findsFirst ended)
    | cons next following =>
        exact ordered (below _ _ (fun _ later => List.mem_cons_of_mem _ later) ended)

/-- A search finds what lies below the first style that leads to anything. -/
theorem exists_plainAttempt? (ended : node.plainSearch? evaluate cursor = some found) :
    ∃ style, node.plainAttempt? evaluate style cursor = some found ∧
      ∀ other, (node.plainAttempt? evaluate other cursor).isSome → style.rank ≤ other.rank := by
  have inOrder :
      SegmentStyle.all.findSome? (node.plainAttempt? evaluate · cursor) = some found := by
    rw [← ended, plainSearch?_eq]
    simp only [SegmentStyle.all, List.findSome?_cons, List.findSome?_nil]
    cases node.plainAttempt? evaluate .literal cursor <;>
      cases node.plainAttempt? evaluate .parameter cursor <;>
        cases node.plainAttempt? evaluate .wildcard cursor <;>
          cases node.plainAttempt? evaluate .doubleWildcard cursor <;> rfl
  obtain ⟨before, style, after, split, attempted, missed⟩ := List.findSome?_eq_some_iff.1 inOrder
  -- a style that leads to anything is none of those that were tried before
  have position : ∀ other, (node.plainAttempt? evaluate other cursor).isSome →
      other.rank = before.length + (style :: after).idxOf other := by
    intro other some
    have later : other ∉ before := by
      intro member
      rw [missed other member] at some
      exact absurd some (by simp)
    rw [SegmentStyle.rank, split, List.idxOf_append_of_notMem later]
  refine ⟨style, attempted, fun other some => ?_⟩
  rw [position other some, position style (by simp [attempted]), List.idxOf_cons_self]
  omega

/-- What is found first below the child of the strongest style that leads to anything is found first
altogether. -/
theorem FindsFirst.of_child (nothing : evaluate [] = []) (canonical : node.Canonical)
    (plain : cursor.segment.IsPlain) (probed : node.probed? style cursor.segment = some child)
    (strongest : ∀ other, (node.plainAttempt? evaluate other cursor).isSome →
      style.rank ≤ other.rank)
    (finds : child.FindsFirst evaluate (Follows style cursor)
      (fun segments others => style ≠ .doubleWildcard → Precedes segments others) found) :
    node.FindsFirst evaluate (fun segments => Reaches segments cursor.onward) Precedes found := by
  obtain ⟨segments, canonicalSegments, follows, same, first⟩ := finds
  have canonicalChild : child.segment.IsCanonical := canonical.here child (mem_of_probed? probed)
  have probe : probe? style cursor.segment = some child.segment.text := key_of_probed? probed
  have there : node.child? child.segment.text = some child := by
    rwa [probed?, probe] at probed
  refine ⟨child.segment :: segments, List.forall_mem_cons.2 ⟨canonicalChild, canonicalSegments⟩,
    (reaches_cons_iff canonicalChild).2 ⟨style, probe, follows⟩, ?_, ?_⟩
  · rw [List.map_cons, entriesAt_cons, there]
    exact same
  · intro others canonicalOthers reaches some
    cases others with
    | nil => cases reaches
    | cons other others =>
        obtain ⟨canonicalOther, later⟩ := List.forall_mem_cons.1 canonicalOthers
        obtain ⟨otherStyle, otherChild, otherProbe, otherProbed, otherFollows, some⟩ :=
          exists_probed_of_reaches nothing canonicalOther reaches some
        have leads : (node.plainAttempt? evaluate otherStyle cursor).isSome := by
          rw [plainAttempt?, otherProbed, Option.bind_some, plainFollow?_isSome_iff nothing
            fun cursor => plainSearch?_isSome_iff nothing
              (canonical.child (mem_of_probed? otherProbed)) cursor]
          exact ⟨others, later, otherFollows, some⟩
        have mine := style_of_probe? plain canonicalChild probe
        have its := style_of_probe? plain canonicalOther otherProbe
        rcases Nat.lt_or_eq_of_le (strongest otherStyle leads) with stronger | tie
        · exact .stronger (by rwa [mine, its])
        · -- a style has one child, so that the difference is further below
          obtain rfl := SegmentStyle.rank_injective tie
          obtain rfl : child = otherChild := Option.some.inj (probed.symm.trans otherProbed)
          have text := Option.some.inj (otherProbe.symm.trans probe)
          rw [canonicalOther.eq_of_text canonicalChild text]
          refine .same fun closed => first others later otherFollows some ?_
          rintro rfl
          rw [Segment.isOpen, mine] at closed
          exact absurd closed (by decide)

/-- What a search finds for plain segments lies at the end of segments that stand before all others
that lead to candidates. -/
theorem plainSearch?_findsFirst (nothing : evaluate [] = []) (canonical : node.Canonical)
    (plain : ∀ taken ∈ cursor.onward, taken.IsPlain)
    (ended : node.plainSearch? evaluate cursor = some found) :
    node.FindsFirst evaluate (fun segments => Reaches segments cursor.onward) Precedes found := by
  induction node using child_induction generalizing cursor found with
  | inherit node ih =>
      obtain ⟨style, attempted, strongest⟩ := exists_plainAttempt? ended
      obtain ⟨child, probed, followed⟩ := Option.bind_eq_some_iff.1 attempted
      have member := mem_of_probed? probed
      have here : cursor.segment.IsPlain := plain _ List.mem_cons_self
      refine .of_child nothing canonical here probed strongest ?_
      refine plainFollow?_findsFirst (fun resumed found part search => ?_) followed
      exact ih child member (canonical.child member)
        (fun taken later => plain taken (part taken later)) search

/-! ## Literal ways -/

theorem validate_of_some (some : evaluate node.entries ≠ []) :
    node.validate evaluate [] = .found (evaluate node.entries) := by
  unfold validate
  have all : (node.entries.filter fun entry => !([] : List RouteId).contains entry.id) =
      node.entries := List.filter_eq_self.2 fun _ _ => rfl
  rw [all]
  cases evaluated : evaluate node.entries with
  | nil => exact absurd evaluated some
  | cons candidate others => rfl

/-- A search goes first where the segments of the request lead by their own text. -/
theorem search_of_at? {target : Node RouteEntry} (cursor : Cursor)
    (some : evaluate target.entries ≠ [])
    (leads : node.at? (cursor.onward.map (·.text)) = Option.some target) :
    node.search evaluate cursor [] = .found (evaluate target.entries) := by
  obtain ⟨position, segment, following⟩ := cursor
  induction following generalizing node position segment with
  | nil =>
      obtain ⟨child, here, last⟩ := Option.bind_eq_some_iff.1 leads
      obtain rfl : child = target := Option.some.inj last
      have probed : node.probed? .literal segment = Option.some child := here
      have ends : child.terminal evaluate [] = .found (evaluate child.entries) := by
        rw [terminal, validate_of_some some]
        rfl
      rw [search_eq, attempt, probed]
      simp only [follow, Cursor.next?, ends]
      rfl
  | cons next following ih =>
      obtain ⟨child, here, below⟩ := Option.bind_eq_some_iff.1 leads
      have probed : node.probed? .literal segment = Option.some child := here
      have goesOn : child.search evaluate ⟨position + 1, next, following⟩ [] =
          .found (evaluate target.entries) := ih _ _ below
      rw [search_eq, attempt, probed]
      simp only [follow, Cursor.next?, goesOn]
      rfl

end Node
end RequestRouting
