import RequestRouting.Proofs.Pattern.Correspondence
import RequestRouting.Proofs.Pattern.Language
import RequestRouting.Proofs.Pattern.Literal

/-!
# Patterns with the same chain

What a pattern that a tree can index matches is told by its canonical segments alone (`Covers`), and
so is whether it ends with a slash. Patterns with the same chain therefore match the same paths,
whatever their variables are called (`PathPattern.isMatch_congr`).
-/

namespace RequestRouting

open Pattern

/-- Whether texts can be distributed in order over canonical segments. -/
def Covers : List Segment → List (List Char) → Prop
  | [], texts => texts = []
  | segment :: path, texts =>
    match segment.style with
    | .literal => ∃ rest, texts = segment.written :: rest ∧ Covers path rest
    | .parameter => ∃ text rest, texts = text :: rest ∧ text ≠ [] ∧ Covers path rest
    | .wildcard => ∃ text rest, texts = text :: rest ∧ Covers path rest
    | .doubleWildcard =>
      ∃ taken rest, texts = taken ++ rest ∧ (∀ text ∈ taken, '\n' ∉ text) ∧ Covers path rest

section

variable {tokens texts : List (List Char)} {segments : List PatternSegment} {path : List Segment}

theorem covers_literal {token : List Char} (noSlash : '/' ∉ token) :
    Covers (.literal token :: path) texts ↔ ∃ rest, texts = token :: rest ∧ Covers path rest := by
  rw [Covers, Segment.written_literal noSlash]
  rfl

/-- Of two readings of the same tokens the segments of the pattern and the canonical ones take the
same texts. -/
theorem distributes_iff_covers (alike : ReadAlike tokens segments path)
    (noSlash : ∀ token ∈ tokens, '/' ∉ token) :
    Distributes segments texts ↔ Covers path texts := by
  induction alike generalizing texts with
  | nil => exact Iff.rfl
  | parameter _ ih | wildcard _ ih | any _ ih | captureRest _ ih =>
      have later := fun texts =>
        @ih texts fun token member => noSlash token (List.mem_cons_of_mem _ member)
      simp [Distributes, TokensMatch, Covers, later, Segment.parameter, Segment.wildcard,
        Segment.doubleWildcard]
  | literal _ _ ih | empty _ _ ih =>
      obtain ⟨here, rest⟩ := List.forall_mem_cons.1 noSlash
      have later := fun texts => @ih texts rest
      rw [covers_literal here]
      simp [Distributes, TokensMatch, later]
  | root =>
      simp [Distributes, TokensMatch, Covers, Segment.root, Segment.written, Segment.isRoot]

/-- A path ends with the root segment exactly if nothing stands behind its last slash. -/
theorem getLast?_finished (nonempty : tokens ≠ []) (noSlash : ∀ token ∈ tokens, '/' ∉ token) :
    (finished .ofToken tokens).getLast? = some .root ↔ tokens.getLast? = some [] := by
  obtain ⟨front, last, rfl⟩ := (List.eq_nil_or_concat tokens).resolve_left nonempty
  rw [List.concat_eq_append] at noSlash ⊢
  rw [finished_append (by simp), finished, List.getLast?_concat, List.getLast?_concat,
    Option.some.injEq, Option.some.injEq]
  by_cases none : last = []
  · simp [none]
  · rw [if_neg none]
    refine iff_of_false (fun root => ?_) none
    have literal : (Segment.ofToken last).style = .literal := by
      rw [root]
      rfl
    rw [ofToken_of_literal literal] at root
    have isRoot := isRoot_literal (noSlash last (by simp))
    rw [root] at isRoot
    exact absurd isRoot (by decide)

theorem getLast?_tokensOf {text : List Char} (slash : text.head? = some '/') :
    (tokensOf text).getLast? = some [] ↔ text.getLast? = some '/' := by
  obtain ⟨front, last, split⟩ :=
    (List.eq_nil_or_concat (tokensOf text)).resolve_left (tokensOf_ne_nil text)
  rw [List.concat_eq_append] at split
  have whole := joined_tokensOf slash
  rw [split, joined, List.flatMap_append, List.flatMap_singleton] at whole
  have noSlash : '/' ∉ last := noSlash_tokensOf text last (by simp [split])
  rw [split, List.getLast?_concat, Option.some.injEq, ← whole]
  by_cases none : last = []
  · simp [none]
  · rw [List.getLast?_append_of_ne_nil _ (by simp), List.getLast?_cons_of_ne_nil none]
    refine iff_of_false none fun ends => noSlash (List.mem_of_getLast? ends)

end

namespace PathPattern

variable {slashAllowed : Bool} {text other : String} {p q : PathPattern}

/-- A pattern without constraints matches the paths for its segments, and those with one more slash
if it allows for one. -/
theorem isMatch_iff_isPathFor
    (unconstrained : p.segments.any PatternSegment.isConstrained = false) (path : String) :
    p.isMatch path = true ↔ IsPathFor p.segments path.toList ∨
      (p.slashAllowed && p.text.toList.getLast? != some '/') = true ∧
        ∃ shorter, path.toList = shorter ++ ['/'] ∧ IsPathFor p.segments shorter := by
  have texts : ∀ {rest}, IsPathFor p.segments rest → ∃ texts, (∀ text ∈ texts, '/' ∉ text) ∧
      Distributes p.segments texts ∧ rest = joined texts := by
    rintro rest (⟨rfl, distributes⟩ | ⟨body, rfl, distributes⟩)
    · exact ⟨[], by simp, distributes, rfl⟩
    · exact ⟨_, fun text member => (of_mem_splitOn member).1, distributes,
        (joined_splitOn body).symm⟩
  rw [isMatch_eq_isSome]
  constructor
  · exact isPathFor_of_match? unconstrained
  · rintro (here | ⟨allowed, shorter, whole, here⟩)
    · obtain ⟨texts, noSlash, distributes, same⟩ := texts here
      exact match?_isSome_of_joined unconstrained noSlash distributes
        (same.trans (List.append_nil _).symm) (.inl rfl)
    · obtain ⟨texts, noSlash, distributes, rfl⟩ := texts here
      exact match?_isSome_of_joined unconstrained noSlash distributes whole (.inr ⟨allowed, rfl⟩)

/-- Patterns whose paths have the same canonical segments match alike. -/
theorem isMatch_congr (made : p.MadeFrom slashAllowed text)
    (made' : q.MadeFrom slashAllowed other) (indexable : isIndexable p.text = true)
    (indexable' : isIndexable q.text = true)
    (same : finished .ofToken (tokensOf p.text.toList) =
      finished .ofToken (tokensOf q.text.toList)) (path : String) :
    p.isMatch path = q.isMatch path := by
  have distributes : ∀ texts, Distributes p.segments texts ↔ Distributes q.segments texts := by
    intro texts
    rw [distributes_iff_covers (readAlike_segments indexable) (noSlash_tokensOf _),
      distributes_iff_covers (readAlike_segments indexable') (noSlash_tokensOf _), same]
  have isPathFor : ∀ rest, IsPathFor p.segments rest ↔ IsPathFor q.segments rest := by
    intro rest
    simp only [IsPathFor, distributes]
  have slash : p.text.toList.getLast? = some '/' ↔ q.text.toList.getLast? = some '/' := by
    rw [← getLast?_tokensOf made.head?_text, ← getLast?_tokensOf made'.head?_text,
      ← getLast?_finished (tokensOf_ne_nil _) (noSlash_tokensOf _),
      ← getLast?_finished (tokensOf_ne_nil _) (noSlash_tokensOf _), same]
  rw [Bool.eq_iff_iff, isMatch_iff_isPathFor (unconstrained_of_isIndexable indexable),
    isMatch_iff_isPathFor (unconstrained_of_isIndexable indexable'), made.slashAllowed,
    made'.slashAllowed]
  simp only [isPathFor, Bool.and_eq_true, bne_iff_ne, ne_eq, slash]

end PathPattern
end RequestRouting
