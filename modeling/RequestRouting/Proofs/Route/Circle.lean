import RequestRouting.Route.Linear
import RequestRouting.Proofs.Pattern.Specificity
import RequestRouting.Proofs.Route.Leading
import RequestRouting.Regex.Standard

/-!
# Patterns that are ranked in a circle

Patterns are ranked by their counts, but for one rule: those that end in `/**` follow all without
multi-segment wildcards. A pattern with such a wildcard elsewhere is ranked by counts against both
kinds, and so can stand behind the former and before the latter (`Circle`). Patterns are in a weak
order exactly if no three of them stand in such a circle (`compareSpecificity_isWeakOrderOn_iff`),
and then a lookup among their routes depends on those that lead (`LinearMatcher.lookup_eq_settle`).
-/

namespace RequestRouting

/-- What the rule for patterns that end in `/**` tells apart. -/
inductive PatternKind where
  /-- No multi-segment wildcard. -/
  | plain
  /-- A multi-segment wildcard, but not `/**` at the end. -/
  | inner
  /-- `/**` at the end. -/
  | rest
  deriving DecidableEq

namespace Specificity

variable {a b c : Specificity}

theorem compare_trans (ab : a.compare b ≠ .gt) (bc : b.compare c ≠ .gt) : a.compare c ≠ .gt :=
  Ordering.isLE_iff_ne_gt.1 (Std.TransCmp.isLE_trans (Ordering.isLE_iff_ne_gt.2 ab)
    (Ordering.isLE_iff_ne_gt.2 bc))

theorem compare_total (a b : Specificity) : a.compare b ≠ .gt ∨ b.compare a ≠ .gt := by
  have turned : b.compare a = (a.compare b).swap := Std.OrientedCmp.eq_swap
  rw [turned]
  cases a.compare b <;> decide

end Specificity

namespace PathPattern

variable {a b c : PathPattern} {path : String}

/-! ## Kinds of patterns -/

/-- The kind of a pattern. -/
def kind (pattern : PathPattern) : PatternKind :=
  if pattern.endsOpen then .rest
  else if pattern.specificity.doubleWildcards = 0 then .plain
  else .inner

/-- The order of patterns by their kinds, and by their counts where these do not decide. -/
def compareKinds (a b : PathPattern) : Ordering :=
  match a.kind, b.kind with
  | .rest, .plain => .gt
  | .plain, .rest => .lt
  | _, _ => a.specificity.compare b.specificity

/-- The rule for patterns that end in `/**` looks at kinds. -/
theorem compareKinds_eq (a b : PathPattern) :
    a.compareKinds b =
      if a.endsOpen && b.specificity.doubleWildcards == 0 then .gt
      else if b.endsOpen && a.specificity.doubleWildcards == 0 then .lt
      else a.specificity.compare b.specificity := by
  have wild : ∀ pattern : PathPattern, pattern.endsOpen = true →
      pattern.specificity.doubleWildcards ≠ 0 := fun _ => doubleWildcards_of_endsOpen
  unfold compareKinds kind
  cases endsA : a.endsOpen <;> cases endsB : b.endsOpen <;>
    by_cases noneA : a.specificity.doubleWildcards = 0 <;>
    by_cases noneB : b.specificity.doubleWildcards = 0 <;> simp_all

/-- When a pattern is not ranked after another one by kinds and counts. -/
theorem compareKinds_ne_gt_iff :
    a.compareKinds b ≠ .gt ↔
      a.kind = .plain ∧ b.kind = .rest ∨
        ¬(a.kind = .rest ∧ b.kind = .plain) ∧ a.specificity.compare b.specificity ≠ .gt := by
  unfold compareKinds
  cases a.kind <;> cases b.kind <;> simp

/-! ## Circles -/

/-- Three patterns of the three kinds of which each is ranked before the next one or ties with it,
and the last one is ranked before the first. -/
structure Circle (path : String) (rest inner plain : PathPattern) : Prop where
  rankedRest : rest.IsRanked path
  rankedInner : inner.IsRanked path
  rankedPlain : plain.IsRanked path
  kindRest : rest.kind = .rest
  kindInner : inner.kind = .inner
  kindPlain : plain.kind = .plain
  restInner : rest.specificity.compare inner.specificity ≠ .gt
  innerPlain : inner.specificity.compare plain.specificity ≠ .gt

/-- When a pattern is not ranked after another one. -/
theorem compareSpecificity_ne_gt_iff :
    a.compareSpecificity b path ≠ .gt ↔
      b.isCatchAll = true ∨
        a.isCatchAll = false ∧ (a.text = path ∨ b.text ≠ path ∧ a.compareKinds b ≠ .gt) := by
  have exact : ∀ pattern : PathPattern,
      (pattern.text == path) = true ↔ pattern.text = path := fun _ => beq_iff_eq
  simp only [compareSpecificity, ← compareKinds_eq, ne_eq, ← exact]
  cases a.isCatchAll <;> cases b.isCatchAll <;> cases a.text == path <;> cases b.text == path <;>
    simp

/-- Kinds and counts rank transitively, except along a circle. -/
theorem compareKinds_trans_or_circle (rankedA : a.IsRanked path) (rankedB : b.IsRanked path)
    (rankedC : c.IsRanked path) (ab : a.compareKinds b ≠ .gt) (bc : b.compareKinds c ≠ .gt) :
    a.compareKinds c ≠ .gt ∨ Circle path a b c ∨ Circle path b c a ∨ Circle path c a b := by
  rw [compareKinds_ne_gt_iff] at ab bc
  by_cases decided : a.compareKinds c ≠ .gt
  · exact .inl decided
  refine .inr ?_
  rw [compareKinds_ne_gt_iff] at decided
  -- the last one is ranked before the first by its counts, unless by the rule
  have ca : ¬(a.kind = .rest ∧ c.kind = .plain) →
      c.specificity.compare a.specificity ≠ .gt := by
    intro noRule
    refine (Specificity.compare_total c.specificity a.specificity).resolve_right fun ac => ?_
    exact decided (.inr ⟨noRule, ac⟩)
  rcases ab with ⟨plainA, restB⟩ | ⟨notAB, ab⟩
  · rcases bc with ⟨plainB, -⟩ | ⟨notBC, bc⟩
    · simp [restB] at plainB
    · have innerC : c.kind = .inner := by
        cases kindC : c.kind <;> simp_all
      have ca := ca (by simp [plainA])
      exact .inr (.inl ⟨rankedB, rankedC, rankedA, restB, innerC, plainA, bc, ca⟩)
  · rcases bc with ⟨plainB, restC⟩ | ⟨notBC, bc⟩
    · have innerA : a.kind = .inner := by
        cases kindA : a.kind <;> simp_all
      have ca := ca (by simp [innerA])
      exact .inr (.inr ⟨rankedC, rankedA, rankedB, restC, innerA, plainB, ca, ab⟩)
    · -- counts are transitive, so that it is the rule
      have ⟨restA, plainC⟩ : a.kind = .rest ∧ c.kind = .plain := by
        by_contra noRule
        exact decided (.inr ⟨noRule, Specificity.compare_trans ab bc⟩)
      have innerB : b.kind = .inner := by
        cases kindB : b.kind <;> simp_all
      exact .inl ⟨rankedA, rankedB, rankedC, restA, innerB, plainC, ab, bc⟩

/-- The order of patterns is transitive, except along a circle. -/
theorem compareSpecificity_trans_or_circle (ab : a.compareSpecificity b path ≠ .gt)
    (bc : b.compareSpecificity c path ≠ .gt) :
    a.compareSpecificity c path ≠ .gt ∨
      Circle path a b c ∨ Circle path b c a ∨ Circle path c a b := by
  rw [compareSpecificity_ne_gt_iff] at ab bc ⊢
  by_cases ranked : a.IsRanked path ∧ b.IsRanked path ∧ c.IsRanked path
  · obtain ⟨rankedA, rankedB, rankedC⟩ := ranked
    have abKinds : a.compareKinds b ≠ .gt := by
      simpa [rankedA.1, rankedA.2, rankedB.1, rankedB.2] using ab
    have bcKinds : b.compareKinds c ≠ .gt := by
      simpa [rankedB.1, rankedB.2, rankedC.1, rankedC.2] using bc
    refine (compareKinds_trans_or_circle rankedA rankedB rankedC abKinds bcKinds).imp_left ?_
    exact fun ac => .inr ⟨rankedA.1, .inr ⟨rankedC.2, ac⟩⟩
  · -- one of the three stands before or behind all others
    refine .inl ?_
    unfold IsRanked at ranked
    grind

/-- Along a circle each pattern is not ranked after the next one, but the first one is ranked after
the last. -/
theorem Circle.ranked_around {rest inner plain : PathPattern}
    (circle : Circle path rest inner plain) :
    rest.compareSpecificity inner path ≠ .gt ∧ inner.compareSpecificity plain path ≠ .gt ∧
      rest.compareSpecificity plain path = .gt := by
  obtain ⟨⟨notAllRest, otherRest⟩, ⟨notAllInner, otherInner⟩, ⟨notAllPlain, otherPlain⟩,
    kindRest, kindInner, kindPlain, restInner, innerPlain⟩ := circle
  refine ⟨?_, ?_, ?_⟩
  · rw [compareSpecificity_ne_gt_iff, compareKinds_ne_gt_iff]
    exact .inr ⟨notAllRest, .inr ⟨otherInner, .inr ⟨by simp [kindInner], restInner⟩⟩⟩
  · rw [compareSpecificity_ne_gt_iff, compareKinds_ne_gt_iff]
    exact .inr ⟨notAllInner, .inr ⟨otherPlain, .inr ⟨by simp [kindInner], innerPlain⟩⟩⟩
  · by_contra notAfter
    rw [← ne_eq, compareSpecificity_ne_gt_iff, compareKinds_ne_gt_iff] at notAfter
    simp_all

/-- Patterns of which no three stand in a circle are in a weak order. -/
theorem isWeakOrderOn_compareSpecificity {patterns : List PathPattern}
    (none : ∀ rest ∈ patterns, ∀ inner ∈ patterns, ∀ plain ∈ patterns,
      ¬Circle path rest inner plain) :
    IsWeakOrderOn (fun a b => a.compareSpecificity b path) patterns := by
  constructor
  · exact fun a _ b _ => compareSpecificity_swap a b path
  · intro a ha b hb c hc ab bc
    rcases compareSpecificity_trans_or_circle ab bc with ac | circle | circle | circle
    · exact ac
    · exact absurd circle (none a ha b hb c hc)
    · exact absurd circle (none b hb c hc a ha)
    · exact absurd circle (none c hc a ha b hb)

/-- To compare patterns the other way round gives the opposite outcome, and the order of some
patterns is transitive exactly if no three of them stand in a circle. -/
theorem compareSpecificity_isWeakOrderOn_iff (path : String) (patterns : List PathPattern) :
    (∀ a b : PathPattern, b.compareSpecificity a path = (a.compareSpecificity b path).swap) ∧
      (IsWeakOrderOn (fun a b => a.compareSpecificity b path) patterns ↔
        ∀ rest ∈ patterns, ∀ inner ∈ patterns, ∀ plain ∈ patterns,
          ¬Circle path rest inner plain) := by
  refine ⟨fun a b => compareSpecificity_swap a b path, ?_, isWeakOrderOn_compareSpecificity⟩
  intro weak rest memberRest inner memberInner plain memberPlain circle
  obtain ⟨restInner, innerPlain, after⟩ := circle.ranked_around
  exact weak.trans rest memberRest inner memberInner plain memberPlain restInner innerPlain after

/-- Three patterns for one path, each of which is ranked before the next one, and the last one
before the first. -/
theorem compareSpecificity_around :
    ∃ rest ∈ (compile false "/a/**").toOption, ∃ inner ∈ (compile false "/a/**/{z}").toOption,
      ∃ plain ∈ (compile false "/a/{x}/{y}/{z}").toOption,
        (rest.isMatch "/a/1/2/3" = true ∧ inner.isMatch "/a/1/2/3" = true ∧
          plain.isMatch "/a/1/2/3" = true) ∧
        rest.compareSpecificity inner "/a/1/2/3" = .lt ∧
        inner.compareSpecificity plain "/a/1/2/3" = .lt ∧
        rest.compareSpecificity plain "/a/1/2/3" = .gt := by
  decide +kernel

end PathPattern

/-! ## Routes -/

section

variable {path : String}

/-- Candidates of whose patterns no three stand in a circle are in a weak order. -/
theorem Candidate.isWeakOrderOn_compareForPath {cs : List Candidate}
    (none : ∀ rest ∈ cs, ∀ inner ∈ cs, ∀ plain ∈ cs,
      ¬PathPattern.Circle path rest.entry.pattern inner.entry.pattern plain.entry.pattern) :
    IsWeakOrderOn (Candidate.compareForPath path) cs := by
  have patterns : IsWeakOrderOn (fun a b => a.compareSpecificity b path)
      (cs.map (·.entry.pattern)) := by
    refine PathPattern.isWeakOrderOn_compareSpecificity ?_
    simpa only [List.forall_mem_map] using none
  exact patterns.comap.then (Candidate.isWeakOrderOn_compareConditions cs)

/-- If no three patterns of candidates stand in a circle, then the candidates that lead decide what
is found, whatever the order of the routes. -/
theorem LinearMatcher.lookup_eq_settle (matcher : LinearMatcher) (method : Method)
    (request : Request) (none : ∀ rest ∈ matcher.entries, ∀ inner ∈ matcher.entries,
      ∀ plain ∈ matcher.entries,
        ¬PathPattern.Circle (Pattern.slashed path) rest.pattern inner.pattern plain.pattern) :
    matcher.lookup method path request =
      settle request .fallback
        (leading (Candidate.compareForPath (Pattern.slashed path))
          (candidates request (Pattern.slashed path)
            (matcher.entries.filter (·.method == method)))) := by
  refine select_eq_settle request .fallback (Candidate.isWeakOrderOn_compareForPath ?_)
  have own : ∀ candidate ∈ candidates request (Pattern.slashed path)
      (matcher.entries.filter (·.method == method)), candidate.entry ∈ matcher.entries := by
    intro candidate member
    obtain ⟨entry, kept, made⟩ := mem_candidates.1 member
    rw [(Candidate.of?_eq_some_iff.1 made).1]
    exact List.mem_of_mem_filter kept
  intro rest memberRest inner memberInner plain memberPlain
  exact none _ (own rest memberRest) _ (own inner memberInner) _ (own plain memberPlain)

end

end RequestRouting
