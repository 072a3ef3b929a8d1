import RequestRouting.Proofs.Pattern.Alignment
import RequestRouting.Proofs.Pattern.Matching

/-!
# Literal patterns

The chain of a pattern in which all segments are literal is that of a request for its text
(`segments_of_literal`), which the pattern matches (`PathPattern.match?_text`). No other pattern has
the same chain (`eq_of_segments_eq`).
-/

namespace RequestRouting

open Pattern

variable {tokens texts others : List (List Char)}

theorem finished_congr {make make' : List Char → Segment}
    (same : ∀ token ∈ tokens, make token = make' token) :
    finished make tokens = finished make' tokens := by
  induction tokens with
  | nil => rfl
  | cons token tokens ih =>
      have here := same token List.mem_cons_self
      by_cases last : tokens = []
      · subst last
        simp [finished, here]
      · rw [finished_cons last, finished_cons last, here,
          ih fun token member => same token (List.mem_cons_of_mem _ member)]

/-- Literal segments are those of tokens that stand for themselves. -/
theorem ofToken_of_finished
    (literal : ∀ segment ∈ finished .ofToken tokens, segment.style = .literal) :
    ∀ token ∈ tokens, Segment.ofToken token = .literal token := by
  induction tokens with
  | nil => simp
  | cons token tokens ih =>
      by_cases last : tokens = []
      · subst last
        intro only member
        obtain rfl := List.mem_singleton.1 member
        by_cases empty : only = []
        · rw [empty]
          rfl
        · refine ofToken_of_literal (literal _ ?_)
          simp [finished, empty]
      · rw [finished_cons last] at literal
        obtain ⟨here, later⟩ := List.forall_mem_cons.1 literal
        exact List.forall_mem_cons.2 ⟨ofToken_of_literal here, ih later⟩

/-- What stands between slashes for a segment. -/
def Segment.written (segment : Segment) : List Char :=
  if segment.isRoot then [] else segment.text.toList

theorem Segment.written_literal {text : List Char} (noSlash : '/' ∉ text) :
    (literal text).written = text := by
  rw [written, if_neg (by simp [isRoot_literal noSlash]), literal, String.toList_ofList]

/-- The segments of a path tell what stands between its slashes, if those that are made of its
tokens do. -/
theorem map_written_finished {make : List Char → Segment} (empty : (make []).written = [])
    (texts : List (List Char)) :
    (finished make texts).map Segment.written = texts.map fun text => (make text).written := by
  induction texts with
  | nil => rfl
  | cons text texts ih =>
      by_cases last : texts = []
      · subst last
        by_cases none : text = []
        · subst none
          simp only [finished, if_true, List.map_singleton, empty]
          rfl
        · simp only [finished, if_neg none, List.map_singleton]
      · rw [finished_cons last, List.map_cons, ih, List.map_cons]

theorem map_written_literal (noSlash : ∀ text ∈ texts, '/' ∉ text) :
    (finished .literal texts).map Segment.written = texts := by
  rw [map_written_finished rfl, List.map_congr_left fun text member =>
    Segment.written_literal (noSlash text member), List.map_id']

/-- A path is determined by its segments. -/
theorem eq_of_finished_eq {path other : String} (slash : path.toList.head? = some '/')
    (slash' : other.toList.head? = some '/')
    (same : finished .literal (tokensOf path.toList) = finished .literal (tokensOf other.toList)) :
    path = other := by
  have sameTokens := congrArg (List.map Segment.written) same
  rw [map_written_literal (noSlash_tokensOf _), map_written_literal (noSlash_tokensOf _)]
    at sameTokens
  have sameText := congrArg joined sameTokens
  rw [joined_tokensOf slash, joined_tokensOf slash'] at sameText
  exact String.toList_injective sameText

/-! ## Chains of literal segments -/

variable {method other : Method} {pattern : String}

/-- The chain of a literal pattern is that of a request for its text. -/
theorem segments_of_literal
    (literal : ∀ segment ∈ (Chain.ofPattern method.name pattern).segments,
      segment.style = .literal) :
    (Chain.ofPattern method.name pattern).segments =
      (Chain.ofRequest method.name pattern).segments := by
  rw [segments_ofPattern] at literal ⊢
  rw [segments_ofRequest]
  refine congrArg (_ :: ·) (finished_congr (ofToken_of_finished fun segment member => ?_))
  exact literal segment (List.mem_cons_of_mem _ member)

/-- No two patterns have the same chain, if it is literal. -/
theorem eq_of_segments_eq {text : String} (slash : pattern.toList.head? = some '/')
    (slash' : text.toList.head? = some '/')
    (literal : ∀ segment ∈ (Chain.ofPattern method.name pattern).segments,
      segment.style = .literal)
    (same : (Chain.ofPattern other.name text).segments =
      (Chain.ofPattern method.name pattern).segments) : other = method ∧ text = pattern := by
  have literal' : ∀ segment ∈ (Chain.ofPattern other.name text).segments,
      segment.style = .literal := by
    rw [same]
    exact literal
  rw [segments_of_literal literal, segments_of_literal literal', segments_ofRequest,
    segments_ofRequest] at same
  obtain ⟨name, sameRest⟩ := List.cons.inj same
  refine ⟨?_, eq_of_finished_eq slash' slash sameRest⟩
  have names := congrArg Segment.text name
  exact Method.name_injective (by simpa [Segment.literal] using names)

/-! ## Matching -/

theorem distributes_literal {tokens : List (List Char)}
    (corresponds : ∀ token ∈ tokens,
      Corresponds token (PatternSegment.read token) (.ofToken token))
    (literal : ∀ token ∈ tokens, Segment.ofToken token = .literal token) :
    Distributes (tokens.map PatternSegment.read) tokens := by
  induction tokens with
  | nil => rfl
  | cons token tokens ih =>
      obtain ⟨here, later⟩ := List.forall_mem_cons.1 corresponds
      obtain ⟨asLiteral, literal⟩ := List.forall_mem_cons.1 literal
      rw [asLiteral] at here
      rw [List.map_cons]
      generalize PatternSegment.read token = segment at here
      generalize read : Segment.literal token = canonical at here
      cases here with
      | literal =>
          refine ⟨token, tokens, rfl, ?_, ih later literal⟩
          by_cases empty : token = []
          · rw [if_pos empty]
            exact empty
          · rw [if_neg empty]
            exact ⟨[], (List.append_nil _).symm, rfl⟩
      | parameter | wildcard | any | captureRest =>
          exact SegmentStyle.noConfusion (congrArg Segment.style read)

/-- A literal pattern matches its own text. -/
theorem PathPattern.match?_text {pattern : PathPattern}
    (indexable : isIndexable pattern.text = true) (slash : pattern.text.toList.head? = some '/')
    (literal : ∀ segment ∈ (Chain.ofPattern method.name pattern.text).segments,
      segment.style = .literal) : (pattern.match? pattern.text).isSome := by
  rw [segments_ofPattern] at literal
  refine match?_isSome_of_distributes (unconstrained_of_isIndexable indexable) slash ?_
  rw [PathPattern.segments, segments_eq]
  exact distributes_literal (corresponds_of_isIndexable indexable)
    (ofToken_of_finished fun segment member => literal segment (List.mem_cons_of_mem _ member))

end RequestRouting
