import RequestRouting.Proofs.Pattern.Alignment
import RequestRouting.Proofs.Pattern.Matching
import RequestRouting.Proofs.Pattern.Specificity
import RequestRouting.Proofs.Segment.Reading
import RequestRouting.Proofs.Tree.Precedence
import RequestRouting.Regex.Standard

/-!
# Patterns that differ in one segment

A search of the tree tries literal text before a variable, this before `*`, and this before `**`, by
the style that a segment has in both of its readings (`Corresponds.hasStyle`). Patterns that differ
in one segment are ranked alike, but for one case: the two characters of `**` make a pattern longer
than the one character of a variable or of `*` does, and so put it first unless the rule for
patterns that end in `/**` decides (`compareSpecificity_of_weaker_segment`).
-/

namespace RequestRouting

/-! ## Styles -/

/-- The styles of pattern segments. Segments of several tokens have none. -/
inductive PatternSegment.HasStyle : PatternSegment → SegmentStyle → Prop
  | empty : HasStyle (tokens []) .literal
  | literal {text} : HasStyle (tokens [.literal text]) .literal
  | parameter {name constraint} : HasStyle (tokens [.parameter name constraint]) .parameter
  | wildcard : HasStyle (tokens [.star]) .wildcard
  | any : HasStyle any .doubleWildcard
  | captureRest {name} : HasStyle (captureRest name) .doubleWildcard

open PatternSegment (HasStyle)

/-- A segment that a tree can index has the style by which the tree tries it. -/
theorem Corresponds.hasStyle {token : List Char} {segment : PatternSegment} {canonical : Segment}
    (corresponds : Corresponds token segment canonical) : segment.HasStyle canonical.style := by
  cases corresponds with
  | literal =>
      split
      · exact .empty
      · exact .literal
  | parameter => exact .parameter
  | wildcard => exact .wildcard
  | any => exact .any
  | captureRest => exact .captureRest

variable {x y : PatternSegment} {s t : SegmentStyle} {front back : List PatternSegment}

theorem PatternSegment.HasStyle.ne_any (style : x.HasStyle s) (other : s ≠ .doubleWildcard) :
    x ≠ .any := by
  rintro rfl
  cases style
  exact other rfl

theorem SegmentStyle.ne_doubleWildcard_of_rank_lt (weaker : s.rank < t.rank) :
    s ≠ .doubleWildcard := by
  rintro rfl
  cases t <;> exact absurd weaker (by decide)

/-! ## Counts -/

namespace Specificity

theorem ofSegments_insert (front : List PatternSegment) (x : PatternSegment)
    (back : List PatternSegment) :
    ofSegments (front ++ x :: back) = add (ofSegments (front ++ back)) (ofSegment x) := by
  induction front with
  | nil =>
      show add (ofSegment x) (ofSegments back) = add (ofSegments back) (ofSegment x)
      simp only [add, Nat.add_comm]
  | cons first front ih =>
      show add (ofSegment first) (ofSegments (front ++ x :: back)) =
        add (add (ofSegment first) (ofSegments (front ++ back))) (ofSegment x)
      rw [ih]
      simp only [add, Nat.add_assoc]

/-- Counts that both sides have do not matter. -/
theorem compare_add (a b c : Specificity) : (add a b).compare (add a c) = b.compare c := by
  have same : ∀ k m n : Nat, Ord.compare (k + m) (k + n) = Ord.compare m n := by
    intro k m n
    simp only [Nat.compare_eq_ite_lt, Nat.add_lt_add_iff_left]
  have totals : ∀ d : Specificity, (add a d).total = a.total + d.total := by
    intro d
    simp only [total, add]
    omega
  unfold compare
  rw [totals, totals, same]
  simp only [add, same]

/-- Of two segments the one with the stronger style comes first, except before `**`. -/
theorem compare_ofSegment (styleX : x.HasStyle s) (styleY : y.HasStyle t)
    (weaker : s.rank < t.rank) :
    (ofSegment x).compare (ofSegment y) = if y = .any ∧ s ≠ .literal then .gt else .lt := by
  cases styleX <;> cases styleY <;> first | exact absurd weaker (by decide) | rfl

theorem doubleWildcards_ofSegment (style : x.HasStyle s) (other : s ≠ .doubleWildcard) :
    (ofSegment x).doubleWildcards = 0 := by
  cases style with
  | empty | literal | parameter | wildcard => rfl
  | any | captureRest => exact absurd rfl other

end Specificity

/-! ## Patterns -/

namespace PathPattern

variable {a b : PathPattern} {slashAllowed : Bool} {text path : String}

theorem segments_of_isCatchAll (all : a.isCatchAll = true) : a.segments = [.any] := by
  unfold segments
  rw [beq_iff_eq.1 all]
  decide +kernel

/-- A compiled pattern ends in `/**` exactly if its last segment is a multi-segment wildcard
without a name. -/
theorem endsOpen_iff (made : b.MadeFrom slashAllowed text) :
    b.endsOpen = true ↔ b.segments.getLast? = some .any := by
  refine ⟨getLast?_segments_of_endsOpen, fun last => ?_⟩
  rw [segments, segments_eq, List.getLast?_map, Option.map_eq_some_iff] at last
  obtain ⟨part, last, read⟩ := last
  obtain rfl : part = ['*', '*'] := by
    by_contra other
    unfold PatternSegment.read at read
    rw [if_neg other] at read
    split at read <;> simp at read
  obtain ⟨front, split⟩ := List.getLast?_eq_some_iff.1 last
  refine List.isSuffixOf_iff_suffix.2 ⟨Pattern.joined front, ?_⟩
  rw [← Pattern.joined_tokensOf made.head?_text, split]
  simp [Pattern.joined]

section

variable (segmentsA : a.segments = front ++ x :: back) (segmentsB : b.segments = front ++ y :: back)

include segmentsA segmentsB

/-- The rule for patterns that end in `/**` does not put the first of the two behind the other. -/
theorem not_behind_of_ne_any (notAny : x ≠ .any) :
    (a.endsOpen && b.specificity.doubleWildcards == 0) = false := by
  rw [Bool.and_eq_false_imp, beq_eq_false_iff_ne]
  intro ends
  have member := List.mem_of_getLast? (getLast?_segments_of_endsOpen ends)
  refine doubleWildcards_of_any_mem ?_
  rw [segmentsA] at member
  rw [segmentsB]
  simp only [List.mem_append, List.mem_cons, notAny.symm, false_or] at member ⊢
  exact member.imp_right .inr

/-- It puts the other one behind the first if this has `**` for its last segment. -/
theorem behind_iff_any_last (made : b.MadeFrom slashAllowed text) :
    (b.endsOpen && a.specificity.doubleWildcards == 0) =
      decide (y = .any ∧ back = [] ∧ a.specificity.doubleWildcards = 0) := by
  rw [Bool.eq_iff_iff, Bool.and_eq_true, beq_iff_eq, decide_eq_true_eq, endsOpen_iff made,
    segmentsB, List.getLast?_append_cons, ← and_assoc]
  refine and_congr_left fun none => ?_
  cases back with
  | nil => simp
  | cons next back =>
      -- a wildcard behind the segment is one of the other pattern too
      have noAny : (next :: back).getLast? ≠ some .any := by
        intro last
        refine doubleWildcards_of_any_mem ?_ none
        rw [segmentsA]
        simp [List.mem_of_getLast? last]
      simpa using noAny

/-- The order of two patterns that are the same but for one segment, if it is not decided by one
of them being the path or the pattern of all paths. -/
theorem compareSpecificity_of_weaker (made : b.MadeFrom slashAllowed text)
    (styleX : x.HasStyle s) (styleY : y.HasStyle t) (weaker : s.rank < t.rank)
    (rankedA : a.IsRanked path) (rankedB : b.IsRanked path) :
    a.compareSpecificity b path =
      if y = .any ∧ s ≠ .literal ∧ (back ≠ [] ∨ a.specificity.doubleWildcards ≠ 0) then .gt
      else .lt := by
  have notAny : x ≠ .any := styleX.ne_any (SegmentStyle.ne_doubleWildcard_of_rank_lt weaker)
  have counts : a.specificity.compare b.specificity =
      if y = .any ∧ s ≠ .literal then .gt else .lt := by
    rw [specificity, specificity, segmentsA, segmentsB, Specificity.ofSegments_insert,
      Specificity.ofSegments_insert, Specificity.compare_add]
    exact Specificity.compare_ofSegment styleX styleY weaker
  rw [compareSpecificity_of_isRanked rankedA rankedB,
    not_behind_of_ne_any segmentsA segmentsB notAny,
    behind_iff_any_last segmentsA segmentsB made, counts]
  by_cases any : y = .any <;> by_cases last : back = [] <;>
    by_cases none : a.specificity.doubleWildcards = 0 <;> simp [any, last, none]

end

/-- Of two patterns that are the same but for one segment, the one with the stronger style there is
ranked before the other. But it is ranked after this if it has a variable or `*` where this has
`**`, unless this ends there and the other one has no multi-segment wildcard. -/
theorem compareSpecificity_of_weaker_segment [Regex.Dialect]
    (compiled : compile slashAllowed text = .ok b)
    (segmentsA : a.segments = front ++ x :: back) (segmentsB : b.segments = front ++ y :: back)
    (styleX : x.HasStyle s) (styleY : y.HasStyle t) (weaker : s.rank < t.rank)
    (other : b.text ≠ path) :
    a.compareSpecificity b path =
      if y = .any ∧ s ≠ .literal ∧ a.text ≠ path ∧
          (back ≠ [] ∨ a.specificity.doubleWildcards ≠ 0) then .gt
      else .lt := by
  have notOpen : s ≠ .doubleWildcard := SegmentStyle.ne_doubleWildcard_of_rank_lt weaker
  have alone : ∀ {z : PatternSegment}, [.any] = front ++ z :: back →
      front = [] ∧ z = .any ∧ back = [] := by
    intro z same
    cases front <;> simp_all
  have notAllA : a.isCatchAll = false := by
    by_contra all
    rw [segments_of_isCatchAll (by simpa using all)] at segmentsA
    exact styleX.ne_any notOpen (alone segmentsA).2.1
  cases allB : b.isCatchAll with
  | true =>
      rw [segments_of_isCatchAll allB] at segmentsB
      obtain ⟨rfl, -, rfl⟩ := alone segmentsB
      have none : a.specificity.doubleWildcards = 0 := by
        rw [specificity, segmentsA]
        exact Specificity.doubleWildcards_ofSegment styleX notOpen
      rw [if_neg (by simp [none])]
      simp [compareSpecificity, notAllA, allB]
  | false =>
      by_cases exactA : a.text = path
      · rw [if_neg (by simp [exactA]), compareSpecificity, notAllA, allB, beq_iff_eq.2 exactA,
          beq_eq_false_iff_ne.2 other]
      · rw [compareSpecificity_of_weaker segmentsA segmentsB (of_compile compiled) styleX styleY
          weaker ⟨notAllA, exactA⟩ ⟨allB, other⟩]
        simp [exactA]

/-- A variable comes before `*` in the middle of a pattern. -/
theorem compareSpecificity_of_weaker_wildcard :
    ∃ a ∈ (compile false "/a/{x}/c").toOption, ∃ b ∈ (compile false "/a/*/c").toOption,
      a.isMatch "/a/b/c" = true ∧ b.isMatch "/a/b/c" = true ∧ b.text ≠ "/a/b/c" ∧
        a.compareSpecificity b "/a/b/c" = .lt := by
  have found : ∃ a ∈ (compile false "/a/{x}/c").toOption, ∃ b ∈ (compile false "/a/*/c").toOption,
      a.isMatch "/a/b/c" = true ∧ b.isMatch "/a/b/c" = true ∧ b.text ≠ "/a/b/c" ∧
        a.segments = [.tokens [.literal ['a']]] ++ .tokens [.parameter ['x'] none] ::
          [.tokens [.literal ['c']]] ∧
        b.segments = [.tokens [.literal ['a']]] ++ .tokens [.star] ::
          [.tokens [.literal ['c']]] := by
    decide +kernel
  obtain ⟨a, memberA, b, memberB, matchA, matchB, other, segmentsA, segmentsB⟩ := found
  have ranked := compareSpecificity_of_weaker_segment (mem_toOption_compile.1 memberB)
    segmentsA segmentsB .parameter .wildcard (by decide) other
  exact ⟨a, memberA, b, memberB, matchA, matchB, other, ranked.trans (if_neg (by simp))⟩

/-- The two characters of `**` put it before a variable in the middle of a pattern. -/
theorem compareSpecificity_of_longer_wildcard :
    ∃ a ∈ (compile false "/{x}/b").toOption, ∃ b ∈ (compile false "/**/b").toOption,
      a.isMatch "/1/b" = true ∧ b.isMatch "/1/b" = true ∧ b.text ≠ "/1/b" ∧
        a.segments = [] ++ .tokens [.parameter ['x'] none] :: [.tokens [.literal ['b']]] ∧
        b.segments = [] ++ .any :: [.tokens [.literal ['b']]] ∧
        a.compareSpecificity b "/1/b" = .gt := by
  decide +kernel

end PathPattern
end RequestRouting
