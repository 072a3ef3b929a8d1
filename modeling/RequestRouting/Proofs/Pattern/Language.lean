import RequestRouting.Proofs.Pattern.Matching
import RequestRouting.Regex.Standard

/-!
# The language of a pattern

A pattern without constraints matches exactly the paths whose texts between slashes can be
distributed over its segments, and as a pattern that allows for one more slash also these paths with
a slash at the end, unless its own text ends with a slash (`language_of_unconstrained`).
-/

namespace RequestRouting

open Pattern

/-- Segments over which nothing can be distributed are wildcards, which also take one empty text. -/
theorem Pattern.distributes_empty_text {segments : List PatternSegment} (some : segments ≠ [])
    (distributes : Distributes segments []) : Distributes segments [[]] := by
  have takesOne : ∀ {taken rest : List (List Char)} {others : List PatternSegment},
      [] = taken ++ rest → Distributes others rest →
      ∃ taken rest, [[]] = taken ++ rest ∧ (∀ text ∈ taken, '\n' ∉ text) ∧
        Distributes others rest := by
    intro taken rest others none later
    obtain ⟨rfl, rfl⟩ := List.append_eq_nil_iff.1 none.symm
    exact ⟨[[]], [], rfl, by simp, later⟩
  cases segments with
  | nil => exact absurd rfl some
  | cons segment others =>
      cases segment with
      | tokens tokens =>
          obtain ⟨text, rest, none, -⟩ := distributes
          exact absurd none (by simp)
      | any | captureRest name =>
          obtain ⟨taken, rest, none, -, later⟩ := distributes
          exact takesOne none later

namespace PathPattern

variable {text path : String} {pattern : PathPattern}

theorem isMatch_eq_isSome (pattern : PathPattern) (path : String) :
    pattern.isMatch path = (pattern.match? path).isSome := by
  rw [isMatch, match?, Option.isSome_map]

/-- A pattern without constraints compiles, whether or not it allows for one more slash. -/
theorem exists_compile_of_unconstrained [Regex.Dialect] (slashAllowed : Bool)
    (unconstrained :
      (Pattern.segments (normalize text)).any PatternSegment.isConstrained = false) :
    ∃ pattern, compile slashAllowed text = .ok pattern := by
  unfold compile
  dsimp only
  split
  · exact ⟨_, rfl⟩
  · rename_i fault failed
    rw [Pattern.expression_of_unconstrained unconstrained] at failed
    exact absurd failed (by simp)

/-- A pattern without constraints that allows for one more slash matches the paths whose tokens can
be distributed over its segments, and those with a slash at the end. -/
theorem isMatch_iff_of_slashAllowed
    (unconstrained : pattern.segments.any PatternSegment.isConstrained = false)
    (allowed : pattern.slashAllowed = true) (slash : path.toList.head? = some '/') :
    pattern.isMatch path = true ↔
      Distributes pattern.segments (tokensOf path.toList) ∨
        pattern.text.toList.getLast? ≠ some '/' ∧
          ∃ shorter : String, shorter.toList.head? = some '/' ∧ path = shorter ++ "/" ∧
            Distributes pattern.segments (tokensOf shorter.toList) := by
  rw [isMatch_eq_isSome]
  constructor
  · intro matched
    rcases isPathFor_of_match? unconstrained matched with
      path | ⟨isAllowed, shorter, whole, none | ⟨body, begins, distributes⟩⟩
    · exact .inl (distributes_of_isPathFor slash path)
    · -- nothing but the one slash is left, which a wildcard takes as an empty text
      obtain ⟨rfl, distributes⟩ := none
      rw [whole]
      exact .inl (distributes_empty_text pattern.segments_ne_nil distributes)
    · rw [allowed, Bool.true_and, bne_iff_ne] at isAllowed
      refine .inr ⟨isAllowed, String.ofList shorter, by simp [begins], ?_, ?_⟩
      · apply String.toList_injective
        simp [whole]
      · rw [String.toList_ofList, begins]
        exact distributes
  · rintro (distributes | ⟨notSlash, shorter, begins, rfl, distributes⟩)
    · exact match?_isSome_of_distributes unconstrained slash distributes
    · refine match?_isSome_of_joined unconstrained (noSlash_tokensOf shorter.toList) distributes ?_
        (.inr ⟨?_, rfl⟩)
      · show (shorter ++ "/").toList = joined (tokensOf shorter.toList) ++ ['/']
        rw [joined_tokensOf begins, String.toList_append]
        rfl
      · rw [allowed, Bool.true_and, bne_iff_ne]
        exact notSlash

/-- A pattern without constraints matches a path exactly if the texts between the slashes of the
path can be distributed over the segments of the pattern. If it allows for one more slash, it also
compiles, and then matches these paths and, unless its own text ends with a slash, these paths with
one more slash. -/
theorem language_of_unconstrained [Regex.Dialect] (compiled : compile false text = .ok pattern)
    (unconstrained : pattern.segments.any PatternSegment.isConstrained = false) :
    (∀ path : String, path.toList.head? = some '/' →
        (pattern.isMatch path = true ↔ Distributes pattern.segments (tokensOf path.toList))) ∧
      ∃ lenient, compile true text = .ok lenient ∧
        ∀ path : String, path.toList.head? = some '/' →
          (lenient.isMatch path = true ↔ Distributes pattern.segments (tokensOf path.toList) ∨
            (normalize text).toList.getLast? ≠ some '/' ∧
              ∃ shorter : String, shorter.toList.head? = some '/' ∧ path = shorter ++ "/" ∧
                Distributes pattern.segments (tokensOf shorter.toList)) := by
  obtain ⟨exact, own⟩ := of_compile compiled
  constructor
  · intro path slash
    rw [isMatch_eq_isSome]
    exact match?_isSome_iff unconstrained exact slash
  · rw [segments, own] at unconstrained
    obtain ⟨lenient, compiled'⟩ := exists_compile_of_unconstrained true unconstrained
    obtain ⟨allowed, own'⟩ := of_compile compiled'
    refine ⟨lenient, compiled', fun path slash => ?_⟩
    have same : lenient.segments = pattern.segments := by rw [segments, segments, own, own']
    rw [← own', ← same]
    refine isMatch_iff_of_slashAllowed ?_ allowed slash
    rwa [segments, own']

/-- Between literal text and a variable with a suffix the wildcard takes two texts of a path. -/
theorem language_of_wildcard_before_suffix :
    ∃ pattern lenient, compile false "/files/**/{name}.txt" = .ok pattern ∧
      compile true "/files/**/{name}.txt" = .ok lenient ∧
      pattern.segments.any PatternSegment.isConstrained = false ∧
      pattern.isMatch "/files/docs/old/a.txt" = true ∧
      lenient.isMatch "/files/docs/old/a.txt/" = true := by
  have read : Pattern.segments (normalize "/files/**/{name}.txt") =
      [.tokens [.literal ['f', 'i', 'l', 'e', 's']], .any,
        .tokens [.parameter ['n', 'a', 'm', 'e'] none, .literal ['.', 't', 'x', 't']]] := by
    decide +kernel
  have unconstrained :
      (Pattern.segments (normalize "/files/**/{name}.txt")).any PatternSegment.isConstrained =
        false := by
    rw [read]
    rfl
  have texts : tokensOf "/files/docs/old/a.txt".toList =
      [['f', 'i', 'l', 'e', 's'], ['d', 'o', 'c', 's'], ['o', 'l', 'd'],
        ['a', '.', 't', 'x', 't']] := by
    decide +kernel
  obtain ⟨pattern, compiled⟩ := exists_compile_of_unconstrained false unconstrained
  have own : pattern.segments = _ := congrArg Pattern.segments (of_compile compiled).2
  rw [← own] at unconstrained
  obtain ⟨exactly, lenient, compiled', orSlash⟩ :=
    language_of_unconstrained compiled unconstrained
  have distributes : Distributes pattern.segments (tokensOf "/files/docs/old/a.txt".toList) := by
    rw [own, read, texts]
    refine ⟨_, _, rfl, ⟨[], rfl, rfl⟩, [_, _], _, rfl, by decide, _, _, rfl, ?_, rfl⟩
    exact ⟨['a'], _, rfl, by decide, [], rfl, rfl⟩
  refine ⟨pattern, lenient, compiled, compiled', unconstrained, ?_, ?_⟩
  · exact (exactly _ (by decide +kernel)).2 distributes
  · refine (orSlash _ (by decide +kernel)).2 (.inr ⟨by decide +kernel, _, ?_, ?_, distributes⟩)
    · decide +kernel
    · decide +kernel

end PathPattern
end RequestRouting
