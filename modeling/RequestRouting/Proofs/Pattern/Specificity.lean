import RequestRouting.Pattern.Specificity

/-!
# The order of patterns turned round

To compare two patterns the other way round gives the opposite outcome (`compareSpecificity_swap`).
The rule for patterns that end in `/**` cannot apply to both of them, as such a pattern has a
multi-segment wildcard itself (`doubleWildcards_of_endsOpen`). Patterns that are neither the path
nor the pattern of all paths are ranked by this rule and by their counts
(`compareSpecificity_of_isRanked`).
-/

namespace RequestRouting

/-- Counts are compared by four numbers, one after the other. -/
instance : Std.TransCmp Specificity.compare :=
  inferInstanceAs <| Std.TransCmp <| compareLex (compareOn Specificity.total) <|
    compareLex (fun a b => compareOn Specificity.length b a) <|
      compareLex (compareOn Specificity.singleWildcards) (compareOn Specificity.parameters)

/-- Several segments have the wildcards of each of them. -/
theorem Specificity.le_doubleWildcards {segments : List PatternSegment} {segment : PatternSegment}
    (member : segment ∈ segments) :
    (ofSegment segment).doubleWildcards ≤ (ofSegments segments).doubleWildcards := by
  induction segments with
  | nil => exact absurd member List.not_mem_nil
  | cons first segments ih =>
      show _ ≤ (ofSegment first).doubleWildcards + (ofSegments segments).doubleWildcards
      rcases List.mem_cons.1 member with rfl | later
      · omega
      · have := ih later
        omega

/-- What follows the last slash of a pattern is its last segment. -/
theorem getLast?_segments_of_suffix {text : String} {part : List Char} (noSlash : '/' ∉ part)
    (suffix : '/' :: part <:+ text.toList) :
    (Pattern.segments text).getLast? = some (PatternSegment.read part) := by
  obtain ⟨front, whole⟩ := suffix
  have alone : part.splitOn '/' = [part] := List.splitOn_eq_singleton noSlash
  have later : ∀ front : List Char,
      ((front ++ '/' :: part).splitOn '/').getLast? = some part := by
    intro front
    rw [List.splitOn, List.splitOnP_append_cons _ _ (by simp), ← List.splitOn, ← List.splitOn,
      alone]
    exact List.getLast?_concat
  unfold Pattern.segments
  rw [List.getLast?_map, Option.map_eq_some_iff]
  refine ⟨part, ?_, rfl⟩
  rw [← whole]
  -- the slash in front of a pattern is no part of it, and may be the one before the segment
  cases front with
  | nil =>
      show (part.splitOn '/').getLast? = some part
      rw [alone]
      rfl
  | cons c front =>
      rw [List.cons_append]
      split
      · rename_i same
        obtain ⟨-, rfl⟩ := List.cons.inj same
        exact later front
      · exact later (c :: front)

namespace PathPattern

/-- A pattern that ends in `/**` has a multi-segment wildcard for its last segment. -/
theorem getLast?_segments_of_endsOpen {pattern : PathPattern} (ends : pattern.endsOpen = true) :
    pattern.segments.getLast? = some .any := by
  have suffix : '/' :: ['*', '*'] <:+ pattern.text.toList := List.isSuffixOf_iff_suffix.1 ends
  exact getLast?_segments_of_suffix (by decide) suffix

theorem doubleWildcards_of_any_mem {pattern : PathPattern} (member : .any ∈ pattern.segments) :
    pattern.specificity.doubleWildcards ≠ 0 := by
  have counted : 1 ≤ pattern.specificity.doubleWildcards := Specificity.le_doubleWildcards member
  omega

/-- A pattern that ends in `/**` has a multi-segment wildcard. -/
theorem doubleWildcards_of_endsOpen {pattern : PathPattern} (ends : pattern.endsOpen = true) :
    pattern.specificity.doubleWildcards ≠ 0 :=
  doubleWildcards_of_any_mem (List.mem_of_getLast? (getLast?_segments_of_endsOpen ends))

/-- Whether neither of the rules applies that put a pattern before or behind all others. -/
def IsRanked (path : String) (pattern : PathPattern) : Prop :=
  pattern.isCatchAll = false ∧ pattern.text ≠ path

theorem compareSpecificity_of_isRanked {a b : PathPattern} {path : String}
    (rankedA : a.IsRanked path) (rankedB : b.IsRanked path) :
    a.compareSpecificity b path =
      if a.endsOpen && b.specificity.doubleWildcards == 0 then .gt
      else if b.endsOpen && a.specificity.doubleWildcards == 0 then .lt
      else a.specificity.compare b.specificity := by
  have other : ∀ {pattern : PathPattern}, pattern.IsRanked path → (pattern.text == path) = false :=
    fun ranked => by simpa using ranked.2
  rw [compareSpecificity, rankedA.1, rankedB.1, other rankedA, other rankedB]

/-- The order of two patterns turned round is the opposite one. -/
theorem compareSpecificity_swap (a b : PathPattern) (path : String) :
    b.compareSpecificity a path = (a.compareSpecificity b path).swap := by
  have counts : b.specificity.compare a.specificity =
      (a.specificity.compare b.specificity).swap :=
    Std.OrientedCmp.eq_swap
  have wild : ∀ c : PathPattern, c.endsOpen = true →
      ¬(c.specificity.doubleWildcards == 0) = true := by
    intro c ends none
    exact doubleWildcards_of_endsOpen ends (beq_iff_eq.1 none)
  unfold compareSpecificity
  cases a.isCatchAll <;> cases b.isCatchAll <;> try rfl
  cases a.text == path <;> cases b.text == path <;> try rfl
  dsimp only
  cases endA : a.endsOpen with
  | true =>
      have wildA := wild a endA
      cases b.specificity.doubleWildcards == 0 <;> cases b.endsOpen <;> simp [wildA, counts]
  | false =>
      cases endB : b.endsOpen with
      | true =>
          have wildB := wild b endB
          cases a.specificity.doubleWildcards == 0 <;> simp [wildB, counts]
      | false => simp [counts]

end PathPattern
end RequestRouting
