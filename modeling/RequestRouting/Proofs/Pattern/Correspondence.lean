import RequestRouting.Proofs.Pattern.Alignment
import RequestRouting.Regex.Standard

/-!
# Two readings of a pattern

A pattern that a tree can index is read twice: as segments, for its regular expression, and as a
chain, for its place in the tree. Behind the method, both have one segment for each text between
the slashes of the pattern, and of the same kind (`readAlike_of_isIndexable`).
-/

namespace RequestRouting

/-- Whether segments of a pattern and canonical segments are two readings of the texts between the
slashes of a pattern, segment by segment. -/
inductive ReadAlike : List (List Char) → List PatternSegment → List Segment → Prop
  | nil : ReadAlike [] [] []
  | parameter {name tokens segments path} : ReadAlike tokens segments path →
      ReadAlike (('{' :: name ++ ['}']) :: tokens) (.tokens [.parameter name none] :: segments)
        (.parameter :: path)
  | wildcard {tokens segments path} : ReadAlike tokens segments path →
      ReadAlike (['*'] :: tokens) (.tokens [.star] :: segments) (.wildcard :: path)
  | any {tokens segments path} : ReadAlike tokens segments path →
      ReadAlike (['*', '*'] :: tokens) (.any :: segments) (.doubleWildcard :: path)
  | captureRest {name tokens segments path} : ReadAlike tokens segments path →
      ReadAlike (('{' :: '*' :: name ++ ['}']) :: tokens) (.captureRest name :: segments)
        (.doubleWildcard :: path)
  | literal {token tokens segments path} : token ≠ [] → ReadAlike tokens segments path →
      ReadAlike (token :: tokens) (.tokens [.literal token] :: segments) (.literal token :: path)
  /-- Two slashes in a row. -/
  | empty {tokens segments path} : tokens ≠ [] → ReadAlike tokens segments path →
      ReadAlike ([] :: tokens) (.tokens [] :: segments) (.literal [] :: path)
  /-- A slash at the end. -/
  | root : ReadAlike [[]] [.tokens []] [.root]

variable {token : List Char} {tokens : List (List Char)} {segment : PatternSegment}
  {canonical : Segment} {segments : List PatternSegment} {path : List Segment}

/-- One more token in front, which is only empty if something follows it. -/
theorem ReadAlike.cons (corresponds : Corresponds token segment canonical)
    (followed : token = [] → tokens ≠ []) (alike : ReadAlike tokens segments path) :
    ReadAlike (token :: tokens) (segment :: segments) (canonical :: path) := by
  cases corresponds with
  | literal =>
      by_cases none : token = []
      · rw [none, if_pos rfl]
        exact .empty (followed none) alike
      · rw [if_neg none]
        exact .literal none alike
  | parameter shape => exact shape ▸ .parameter alike
  | wildcard shape => exact shape ▸ .wildcard alike
  | any shape => exact shape ▸ .any alike
  | captureRest shape => exact shape ▸ .captureRest alike

/-- Tokens that are read alike one by one are so as the tokens of a pattern, where the last one may
be the root segment. -/
theorem readAlike_of_corresponds
    (corresponds : ∀ token ∈ tokens,
      Corresponds token (PatternSegment.read token) (.ofToken token)) :
    ReadAlike tokens (tokens.map PatternSegment.read) (finished .ofToken tokens) := by
  induction tokens with
  | nil => exact .nil
  | cons token tokens ih =>
      have here := corresponds token List.mem_cons_self
      have later := ih fun token member => corresponds token (List.mem_cons_of_mem _ member)
      by_cases last : tokens = []
      · subst last
        by_cases none : token = []
        · subst none
          have read : PatternSegment.read [] = .tokens [] := by
            simp [PatternSegment.read, PatternSegment.restName?, PatternToken.read]
          rw [finished, if_pos rfl, List.map_singleton, read]
          exact .root
        · rw [finished, if_neg none]
          exact .cons here (absurd · none) .nil
      · rw [finished_cons last, List.map_cons]
        exact .cons here (fun _ => last) later

/-- The segments of a pattern that a tree can index are read as those of its path. -/
theorem readAlike_segments {pattern : PathPattern} (indexable : isIndexable pattern.text = true) :
    ReadAlike (tokensOf pattern.text.toList) pattern.segments
      (finished .ofToken (tokensOf pattern.text.toList)) := by
  rw [PathPattern.segments, segments_eq]
  exact readAlike_of_corresponds (corresponds_of_isIndexable indexable)

/-- If a tree can index a pattern, its segments and those of its chain behind the method are two
readings of the same texts. -/
theorem readAlike_of_isIndexable (pattern : PathPattern) (method : String)
    (indexable : isIndexable pattern.text = true) :
    ∃ path, (Chain.ofPattern method pattern.text).segments =
        ((Text.upper method.toList).splitOn '/').map Segment.ofToken ++ path ∧
      ReadAlike (tokensOf pattern.text.toList) pattern.segments path :=
  ⟨_, segments_split .ofToken method pattern.text, readAlike_segments indexable⟩

/-- A pattern with segments of all kinds, below a method whose name is put into upper case. -/
theorem readAlike_of_every_kind :
    ∃ pattern ∈ (PathPattern.compile false "/a//{id}/*/**/{*rest}/").toOption,
      isIndexable pattern.text = true ∧
        ∃ path, (Chain.ofPattern "get" pattern.text).segments =
            .literal ['G', 'E', 'T'] :: path ∧
          path = [.literal ['a'], .literal [], .parameter, .wildcard, .doubleWildcard,
            .doubleWildcard, .root] ∧
          ReadAlike (tokensOf pattern.text.toList) pattern.segments path := by
  have found : ∃ pattern ∈ (PathPattern.compile false "/a//{id}/*/**/{*rest}/").toOption,
      isIndexable pattern.text = true ∧ (Chain.ofPattern "get" pattern.text).segments =
        .literal ['G', 'E', 'T'] :: [.literal ['a'], .literal [], .parameter, .wildcard,
          .doubleWildcard, .doubleWildcard, .root] := by
    decide +kernel
  have method : ((Text.upper "get".toList).splitOn '/').map Segment.ofToken =
      [.literal ['G', 'E', 'T']] := by
    decide +kernel
  obtain ⟨pattern, member, indexable, chain⟩ := found
  obtain ⟨path, split, alike⟩ := readAlike_of_isIndexable pattern "get" indexable
  rw [method] at split
  have same := (List.cons.inj (split.symm.trans chain)).2
  exact ⟨pattern, member, indexable, path, split, same, alike⟩

end RequestRouting
