import RequestRouting.Proofs.Pattern.Distribution
import RequestRouting.Proofs.Segment.Alignment
import RequestRouting.Proofs.Segment.Reading

/-!
# The chain of a pattern along those of its paths

If a pattern that a tree can index matches a path, the segments of its chain take those of the
path's chain, as both chains follow the tokens of their texts. There is one exception: a slash
that ends a path is a segment of its own kind, which an empty segment inside of a pattern does
not take (`covered_of_match?`).
-/

namespace RequestRouting

open Pattern

/-! ## Tokens -/

theorem Segment.text_literal (token : List Char) :
    (Segment.literal token).text = "" ↔ token = [] := by
  rw [literal, String.ofList_eq_empty_iff]

/-- A text without slashes is no root segment. -/
theorem isRoot_literal {token : List Char} (noSlash : '/' ∉ token) :
    (Segment.literal token).isRoot = false := by
  by_contra root
  have text : String.ofList token = "/" := by simpa [Segment.isRoot, Segment.literal] using root
  have token : token = ['/'] := by simpa using congrArg String.toList text
  rw [token] at noSlash
  exact noSlash List.mem_cons_self

/-- What the tokens of a segment match is taken by the canonical segment. -/
theorem accepts_of_tokensMatch {token text : List Char} {parts : List PatternToken}
    (corresponds : Corresponds token (.tokens parts) (.ofToken token)) (noSlash : '/' ∉ text)
    (matched : TokensMatch parts text) :
    (Segment.ofToken token).isOpen = false ∧ (Segment.ofToken token).Accepts (.literal text) := by
  generalize Segment.ofToken token = segment at corresponds
  cases corresponds with
  | literal =>
      refine ⟨rfl, ?_⟩
      by_cases none : token = []
      · rw [if_pos none] at matched
        obtain rfl : text = [] := matched
        rw [none]
        rfl
      · rw [if_neg none] at matched
        obtain ⟨rest, rfl, last⟩ := matched
        obtain rfl : rest = [] := last
        rw [List.append_nil]
        rfl
  | parameter shape =>
      obtain ⟨value, rest, rfl, some, last⟩ := matched
      obtain rfl : rest = [] := last
      rw [List.append_nil] at noSlash ⊢
      exact ⟨rfl, isRoot_literal noSlash, fun none => some ((Segment.text_literal value).1 none)⟩
  | wildcard shape => exact ⟨rfl, trivial⟩

theorem isOpen_of_corresponds {token : List Char} {segment : PatternSegment}
    (corresponds : Corresponds token segment (.ofToken token))
    (wildcard : segment = .any ∨ ∃ name, segment = .captureRest name) :
    (Segment.ofToken token).isOpen = true := by
  generalize Segment.ofToken token = canonical at corresponds
  cases corresponds with
  | any | captureRest => rfl
  | literal | parameter | wildcard => simp at wildcard

/-- Texts that can be distributed over the segments of a pattern are taken by its canonical
segments. -/
theorem aligned_of_distributes {tokens texts : List (List Char)}
    (corresponds : ∀ token ∈ tokens,
      Corresponds token (PatternSegment.read token) (.ofToken token))
    (noSlash : ∀ text ∈ texts, '/' ∉ text)
    (distributes : Distributes (tokens.map PatternSegment.read) texts) :
    Aligned (tokens.map .ofToken) (texts.map .literal) := by
  induction tokens generalizing texts with
  | nil =>
      obtain rfl : texts = [] := distributes
      rfl
  | cons token tokens ih =>
      have here := corresponds token List.mem_cons_self
      have later := fun token member => corresponds token (List.mem_cons_of_mem _ member)
      rw [List.map_cons] at distributes
      cases read : PatternSegment.read token with
      | tokens parts =>
          rw [read] at distributes here
          obtain ⟨text, rest, rfl, matched, below⟩ := distributes
          obtain ⟨closed, accepts⟩ :=
            accepts_of_tokensMatch here (noSlash text List.mem_cons_self) matched
          exact (aligned_cons_closed closed).2 ⟨_, _, rfl, accepts,
            ih later (fun text member => noSlash text (List.mem_cons_of_mem _ member)) below⟩
      | any =>
          rw [read] at distributes here
          obtain ⟨taken, rest, rfl, -, below⟩ := distributes
          exact (aligned_cons_open (isOpen_of_corresponds here (.inl rfl))).2
            ⟨_, _, List.map_append,
              ih later (fun text member => noSlash text (List.mem_append_right _ member)) below⟩
      | captureRest name =>
          rw [read] at distributes here
          obtain ⟨taken, rest, rfl, -, below⟩ := distributes
          exact (aligned_cons_open (isOpen_of_corresponds here (.inr ⟨name, rfl⟩))).2
            ⟨_, _, List.map_append,
              ih later (fun text member => noSlash text (List.mem_append_right _ member)) below⟩

/-! ## The last segment -/

/-- Segments that can take nothing are wildcards, which no other segment stands for. -/
theorem aligned_nil_iff {segments : List Segment} :
    Aligned segments [] ↔ ∀ segment ∈ segments, segment.isOpen = true := by
  induction segments with
  | nil => simp [Aligned]
  | cons segment segments ih =>
      cases open_ : segment.isOpen with
      | true =>
          rw [aligned_cons_open open_]
          simp [open_, ih]
      | false =>
          rw [aligned_cons_closed open_]
          simp [open_]

theorem finished_of_isOpen {tokens : List (List Char)}
    (opened : ∀ segment ∈ tokens.map Segment.ofToken, segment.isOpen = true) :
    finished Segment.ofToken tokens = tokens.map Segment.ofToken := by
  induction tokens with
  | nil => rfl
  | cons token tokens ih =>
      have later := ih fun segment member => opened segment (List.mem_cons_of_mem _ member)
      by_cases last : tokens = []
      · subst last
        have some : token ≠ [] := by
          rintro rfl
          exact absurd (opened _ List.mem_cons_self) (by decide)
        rw [finished, if_neg some]
        rfl
      · rw [finished_cons last, later]
        rfl

theorem ofToken_of_literal {token : List Char}
    (literal : (Segment.ofToken token).style = .literal) :
    Segment.ofToken token = .literal token := by
  unfold Segment.ofToken at literal ⊢
  split at literal
  · exact SegmentStyle.noConfusion literal
  · split at literal
    · exact SegmentStyle.noConfusion literal
    · split at literal
      · split at literal <;> exact SegmentStyle.noConfusion literal
      · simp_all

/-- A token that takes the last text of a path takes its segment, unless both are empty. -/
theorem accepts_finished {token text : List Char} (some : token ≠ [])
    (accepts : (Segment.ofToken token).Accepts (.literal text)) :
    (Segment.ofToken token).Accepts (if text = [] then .root else .literal text) := by
  by_cases none : text = []
  · rw [if_pos none]
    rw [none] at accepts
    cases style : (Segment.ofToken token).style with
    | literal =>
        rw [ofToken_of_literal style] at accepts
        exact absurd ((Segment.text_literal token).1 accepts.symm) some
    | parameter =>
        simp only [Segment.Accepts, style] at accepts
        exact absurd rfl accepts.2
    | wildcard => simp [Segment.Accepts, style]
    | doubleWildcard => simp [Segment.Accepts, style]
  · rwa [if_neg none]

/-- An empty token takes empty text only. -/
theorem eq_nil_of_accepts_empty {text : List Char}
    (accepts : (Segment.ofToken []).Accepts (.literal text)) : text = [] :=
  (Segment.text_literal text).1 accepts

theorem aligned_finished_last {token : List Char} {texts : List (List Char)}
    (some_text : texts ≠ [])
    (aligned : Aligned [Segment.ofToken token] (texts.map Segment.literal)) :
    Aligned (finished .ofToken [token]) (finished .literal texts) := by
  have one : (Segment.ofToken token).isOpen = false →
      ∃ text, texts = [text] ∧ (Segment.ofToken token).Accepts (.literal text) := by
    intro closed
    obtain ⟨first, back, split, accepts, none⟩ := (aligned_cons_closed closed).1 aligned
    obtain ⟨text, rest, rfl, rfl, rfl⟩ := List.map_eq_cons_iff.1 split
    obtain rfl : rest = [] := List.map_eq_nil_iff.1 none
    exact ⟨text, rfl, accepts⟩
  rw [finished]
  by_cases empty : token = []
  · subst empty
    obtain ⟨text, rfl, accepts⟩ := one rfl
    obtain rfl := eq_nil_of_accepts_empty accepts
    exact (aligned_cons_closed rfl).2 ⟨.root, [], rfl, rfl, rfl⟩
  · rw [if_neg empty]
    cases open_ : (Segment.ofToken token).isOpen with
    | true => exact (aligned_cons_open open_).2 ⟨_, [], (List.append_nil _).symm, rfl⟩
    | false =>
        obtain ⟨text, rfl, accepts⟩ := one open_
        exact (aligned_cons_closed open_).2 ⟨_, [], rfl, accepts_finished empty accepts, rfl⟩

/-- What is taken token by token is taken segment by segment, unless an empty token inside of the
pattern took what follows the last slash of the path. -/
theorem aligned_finished {tokens texts : List (List Char)} (some_token : tokens ≠ [])
    (some_text : texts ≠ [])
    (aligned : Aligned (tokens.map Segment.ofToken) (texts.map Segment.literal)) :
    Aligned (finished .ofToken tokens) (finished .literal texts) ∨
      EndsEmpty (finished .ofToken tokens) := by
  induction tokens generalizing texts with
  | nil => exact absurd rfl some_token
  | cons token tokens ih =>
      rw [List.map_cons] at aligned
      by_cases last : tokens = []
      · rw [last, List.map_nil] at aligned
        rw [last]
        exact .inl (aligned_finished_last some_text aligned)
      rw [finished_cons last]
      cases open_ : (Segment.ofToken token).isOpen with
      | true =>
          obtain ⟨front, back, split, below⟩ := (aligned_cons_open open_).1 aligned
          obtain ⟨first, rest, rfl, rfl, rfl⟩ := List.map_eq_append_iff.1 split
          by_cases none : rest = []
          · -- the wildcard takes all that is left, the root segment of a last slash included
            rw [none, List.map_nil, aligned_nil_iff] at below
            refine .inl ((aligned_cons_open open_).2 ⟨_, [], (List.append_nil _).symm, ?_⟩)
            rw [finished_of_isOpen below]
            exact aligned_nil_iff.2 below
          · rw [finished_append none]
            rcases ih last none below with covered | empty
            · exact .inl ((aligned_cons_open open_).2 ⟨_, _, rfl, covered⟩)
            · exact .inr (empty.cons _)
      | false =>
          obtain ⟨first, back, split, accepts, below⟩ := (aligned_cons_closed open_).1 aligned
          obtain ⟨text, rest, rfl, rfl, rfl⟩ := List.map_eq_cons_iff.1 split
          by_cases none : rest = []
          · -- all that follows in the pattern are wildcards, which take nothing
            rw [none, List.map_nil, aligned_nil_iff] at below
            rw [none, finished_of_isOpen below]
            by_cases empty : token = []
            · have some : tokens.map Segment.ofToken ≠ [] := by simpa using last
              rw [empty]
              exact .inr (endsEmpty_of_append [] below some)
            · exact .inl ((aligned_cons_closed open_).2
                ⟨_, [], rfl, accepts_finished empty accepts, aligned_nil_iff.2 below⟩)
          · rw [finished_cons none]
            rcases ih last none below with covered | empty
            · exact .inl ((aligned_cons_closed open_).2 ⟨_, _, rfl, accepts, covered⟩)
            · exact .inr (empty.cons _)

/-! ## Patterns of a tree -/

theorem segments_eq (pattern : String) :
    Pattern.segments pattern = (tokensOf pattern.toList).map PatternSegment.read := by
  unfold Pattern.segments tokensOf
  cases pattern.toList with
  | nil => rfl
  | cons c cs =>
      by_cases slash : c = '/'
      · rw [slash]
        rfl
      · rw [Chain.body]
        · split
          · rename_i same
            exact absurd (List.cons.inj same).1 slash
          · rfl
        · exact fun _ same => slash (List.cons.inj same).1

/-- The tokens of a pattern that a tree can index are read alike both times. -/
theorem corresponds_of_isIndexable {pattern : String} (indexable : isIndexable pattern = true) :
    ∀ token ∈ tokensOf pattern.toList,
      Corresponds token (PatternSegment.read token) (.ofToken token) := by
  simp only [isIndexable, Bool.and_eq_true, Bool.not_eq_true', List.contains_eq_mem,
    decide_eq_false_iff_not, List.all_eq_true] at indexable
  obtain ⟨noMark, all⟩ := indexable
  have tokens : ∀ token ∈ tokensOf pattern.toList, token ∈ pattern.toList.splitOn '/' := by
    intro token member
    unfold tokensOf Chain.body at member
    split at member
    · rename_i cs whole
      rw [whole, List.splitOn_cons_eq_if_modifyHead, if_pos (by decide)]
      exact List.mem_cons_of_mem _ member
    · exact member
  intro token member
  have part := tokens token member
  exact corresponds_of_isIndexableToken (all token part) fun mark =>
    noMark ((of_mem_splitOn part).2 mark)

theorem unconstrained_of_isIndexable {pattern : PathPattern}
    (indexable : isIndexable pattern.text = true) :
    pattern.segments.any PatternSegment.isConstrained = false := by
  rw [PathPattern.segments, segments_eq, List.any_eq_false]
  intro segment member
  obtain ⟨token, tokenMember, rfl⟩ := List.mem_map.1 member
  have corresponds := corresponds_of_isIndexable indexable token tokenMember
  generalize PatternSegment.read token = segment at corresponds
  generalize Segment.ofToken token = canonical at corresponds
  cases corresponds with
  | literal =>
      by_cases none : token = [] <;>
        simp [none, PatternSegment.isConstrained, PatternToken.isConstrained]
  | parameter | wildcard | any | captureRest =>
      simp [PatternSegment.isConstrained, PatternToken.isConstrained]

/-- The chain of a path that a pattern matches is taken by the chain of the pattern, unless this
ends with wildcards behind an empty segment. -/
theorem covered_of_match? {pattern : PathPattern} {path : String}
    (indexable : isIndexable pattern.text = true) (exact : pattern.slashAllowed = false)
    (slash : path.toList.head? = some '/') (matched : (pattern.match? path).isSome)
    (method : Method) :
    Aligned (Chain.ofPattern method.name pattern.text).segments
        (Chain.ofRequest method.name path).segments ∨
      EndsEmpty (Chain.ofPattern method.name pattern.text).segments := by
  have distributes := PathPattern.distributes_of_match? (unconstrained_of_isIndexable indexable)
    exact slash matched
  rw [PathPattern.segments, segments_eq] at distributes
  have aligned := aligned_of_distributes (corresponds_of_isIndexable indexable)
    (noSlash_tokensOf path.toList) distributes
  rw [segments_ofPattern, segments_ofRequest]
  rcases aligned_finished (tokensOf_ne_nil _) (tokensOf_ne_nil _) aligned with covered | empty
  · exact .inl ((aligned_cons_closed rfl).2 ⟨_, _, rfl, rfl, covered⟩)
  · exact .inr (empty.cons _)

/-- The last segment of a path is never empty. -/
theorem text_getLast_ofRequest {method : Method} {path : String} {segment : Segment}
    (last : (Chain.ofRequest method.name path).segments.getLast? = some segment) :
    segment.text ≠ "" := by
  rw [segments_ofRequest] at last
  have ends : ∀ {texts : List (List Char)}, texts ≠ [] →
      ∃ front, ∃ final : Segment, finished .literal texts = front ++ [final] ∧ final.text ≠ "" := by
    intro texts some
    obtain ⟨front, text, rfl⟩ := (List.eq_nil_or_concat texts).resolve_left some
    rw [List.concat_eq_append, finished_append (by simp)]
    refine ⟨_, _, rfl, ?_⟩
    by_cases none : text = []
    · rw [if_pos none]
      decide
    · rw [if_neg none]
      exact fun empty => none ((Segment.text_literal text).1 empty)
  obtain ⟨front, final, split, full⟩ := ends (tokensOf_ne_nil path.toList)
  rw [split, ← List.cons_append, List.getLast?_concat, Option.some.injEq] at last
  rwa [← last]

/-- Of the patterns that match a path, the search of a tree comes along those that are not given
up too early. -/
theorem reaches_of_match?_iff {pattern : PathPattern} {path : String}
    (indexable : isIndexable pattern.text = true) (exact : pattern.slashAllowed = false)
    (slash : path.toList.head? = some '/') (matched : (pattern.match? path).isSome)
    (method : Method) :
    Reaches (Chain.ofPattern method.name pattern.text).segments
        (Chain.ofRequest method.name path).segments ↔
      ¬StopsShort (Chain.ofPattern method.name pattern.text).segments
        (Chain.ofRequest method.name path).segments :=
  reaches_iff_not_stopsShort (fun _ => isCanonical_of_mem_ofPattern) (Chain.nonempty _)
    (fun _ => text_getLast_ofRequest) (covered_of_match? indexable exact slash matched method)

end RequestRouting
