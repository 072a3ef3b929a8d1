import RequestRouting.Pattern.Basic
import RequestRouting.Proofs.Regex.Groups

/-!
# What a match captures

The variables of a pattern are captured in the slots of its expression, from left to right.
`SegmentsCapture` says what path segments stand for with given values in the slots, and a match of
a pattern without constraints captures such values for its own path
(`PathPattern.segmentsCapture_of_search?`).
-/

namespace RequestRouting

open Regex

namespace Pattern

/-- Whether a text is nothing, or a slash and text without line feeds. -/
def IsRest (text : List Char) : Prop :=
  text = [] ∨ ∃ line, '\n' ∉ line ∧ text = '/' :: line

/-- Whether the tokens of a segment make this text with the values of the slots from `slot` on. -/
inductive TokensCapture (values : Nat → Option (List Char)) :
    (slot : Nat) → List PatternToken → List Char → Prop where
  | nil {slot} : TokensCapture values slot [] []
  | literal {slot tokens part text} (rest : TokensCapture values slot tokens text) :
    TokensCapture values slot (.literal part :: tokens) (part ++ text)
  | parameter {slot tokens name constraint value text} (bound : values slot = some value)
    (full : value ≠ []) (noSlash : '/' ∉ value)
    (rest : TokensCapture values (slot + 1) tokens text) :
    TokensCapture values slot (.parameter name constraint :: tokens) (value ++ text)
  | star {slot tokens value text} (noSlash : '/' ∉ value)
    (rest : TokensCapture values slot tokens text) :
    TokensCapture values slot (.star :: tokens) (value ++ text)
  | anyChar {slot tokens c text} (noSlash : c ≠ '/')
    (rest : TokensCapture values slot tokens text) :
    TokensCapture values slot (.anyChar :: tokens) (c :: text)

/-- Whether a segment makes this text with the values of the slots from `slot` on. The rest of a
path has no value if it takes no part in the match. -/
inductive SegmentCaptures (values : Nat → Option (List Char)) (slot : Nat) :
    PatternSegment → List Char → Prop where
  | tokens {tokens text} (captures : TokensCapture values slot tokens text) :
    SegmentCaptures values slot (.tokens tokens) ('/' :: text)
  | any {text} (rest : IsRest text) : SegmentCaptures values slot .any text
  | bound {name value} (bound : values slot = some value) (line : '\n' ∉ value) :
    SegmentCaptures values slot (.captureRest name) ('/' :: value)
  | unbound {name} (unbound : values slot = none) :
    SegmentCaptures values slot (.captureRest name) []

/-- Whether segments make this text with the values of the slots from `slot` on. -/
inductive SegmentsCapture (values : Nat → Option (List Char)) :
    (slot : Nat) → List PatternSegment → List Char → Prop where
  | nil {slot} : SegmentsCapture values slot [] []
  | cons {slot segment segments text rest} (first : SegmentCaptures values slot segment text)
    (others : SegmentsCapture values (slot + segment.names.length) segments rest) :
    SegmentsCapture values slot (segment :: segments) (text ++ rest)

/-! ## The slots of segments -/

/-- The tokens of a segment use one slot for each variable. -/
theorem mem_groups_tokenExpressions {slot : Nat} {tokens : List PatternToken} :
    ∀ r ∈ tokenExpressions slot tokens, ∀ group ∈ r.groups,
      slot ≤ group ∧ group < slot + (PatternSegment.tokens tokens).names.length := by
  induction tokens generalizing slot with
  | nil => exact fun _ member => absurd member List.not_mem_nil
  | cons token tokens ih =>
      cases token with
      | literal part =>
          refine List.forall_mem_cons.2 ⟨fun group own => ?_, ih⟩
          rw [groups_literal] at own
          exact absurd own List.not_mem_nil
      | parameter name constraint =>
          have count : (PatternSegment.tokens (.parameter name constraint :: tokens)).names.length =
            (PatternSegment.tokens tokens).names.length + 1 := rfl
          rw [count]
          refine List.forall_mem_cons.2 ⟨fun group own => ?_, fun r member group own => ?_⟩
          · obtain rfl := List.mem_singleton.1 own
            omega
          · have later := ih r member group own
            omega
      | star | anyChar =>
          exact List.forall_mem_cons.2 ⟨fun group own => absurd own List.not_mem_nil, ih⟩

/-- The expressions of a segment stand in front of those of the segments that follow, whose slots
come after its own. -/
theorem segmentExpressions_cons (slot : Nat) (segment : PatternSegment)
    (segments : List PatternSegment) :
    segmentExpressions slot (segment :: segments) =
      segmentExpressions slot [segment] ++
        segmentExpressions (slot + segment.names.length) segments := by
  cases segment <;> simp [segmentExpressions, PatternSegment.names]

/-- A segment uses one slot for each of its variables. -/
theorem mem_groups_segmentExpression {slot : Nat} {segment : PatternSegment} :
    ∀ r ∈ segmentExpressions slot [segment], ∀ group ∈ r.groups,
      slot ≤ group ∧ group < slot + segment.names.length := by
  cases segment with
  | any => exact List.forall_mem_singleton.2 fun group own => absurd own List.not_mem_nil
  | captureRest name =>
      refine List.forall_mem_singleton.2 fun group own => ?_
      obtain rfl := List.mem_singleton.1 own
      exact ⟨Nat.le_refl _, Nat.lt_succ_self _⟩
  | tokens tokens =>
      refine List.forall_mem_cons.2 ⟨fun group own => absurd own List.not_mem_nil, ?_⟩
      exact List.forall_mem_append.2
        ⟨mem_groups_tokenExpressions, fun _ member => absurd member List.not_mem_nil⟩

/-- Segments use no slot before their first. -/
theorem le_of_mem_groups_segmentExpressions {slot : Nat} {segments : List PatternSegment} :
    ∀ r ∈ segmentExpressions slot segments, ∀ group ∈ r.groups, slot ≤ group := by
  induction segments generalizing slot with
  | nil => exact fun _ member => absurd member List.not_mem_nil
  | cons segment segments ih =>
      rw [segmentExpressions_cons]
      refine List.forall_mem_append.2 ⟨fun r member group own => ?_, fun r member group own => ?_⟩
      · exact (mem_groups_segmentExpression r member group own).1
      · exact Nat.le_trans (Nat.le_add_right _ _) (ih r member group own)

/-! ## What the expressions read -/

theorem spans_of_reads_inSegment_plus {p q : Progress} (reads : inSegment.plus.Reads p q) :
    ∃ text, (text ≠ [] ∧ '/' ∉ text) ∧ Spans p text q := by
  obtain ⟨text, some, all, span⟩ := spans_of_reads_plus reads
  exact ⟨text, ⟨some, CharSet.forall_contains_except.1 all⟩, span⟩

theorem spans_of_reads_inSegment_star {p q : Progress} (reads : inSegment.star.Reads p q) :
    ∃ text, '/' ∉ text ∧ Spans p text q := by
  obtain ⟨text, all, span⟩ := spans_of_reads_star reads
  exact ⟨text, CharSet.forall_contains_except.1 all, span⟩

theorem spans_of_reads_inLine_star {p q : Progress} (reads : inLine.star.Reads p q) :
    ∃ text, '\n' ∉ text ∧ Spans p text q := by
  obtain ⟨text, all, span⟩ := spans_of_reads_star reads
  exact ⟨text, CharSet.forall_contains_except.1 all, span⟩

/-- The expression of `**` reads nothing, or a slash and text without line feeds. -/
theorem isRest_of_reads {p q : Progress}
    (reads : (Regex.seq (.literal ['/']) inLine.star).optional.Reads p q) :
    ∃ text, IsRest text ∧ Spans p text q := by
  rcases reads_optional reads with rfl | ⟨m, slash, rest⟩
  · exact ⟨[], .inl rfl, .nil p⟩
  · obtain ⟨text, noLineFeed, span⟩ := spans_of_reads_inLine_star rest
    exact ⟨'/' :: text, .inr ⟨text, noLineFeed, rfl⟩, (spans_of_reads_literal slash).append span⟩

/-! ## What is read is captured -/

variable {whole : List Char} {slot : Nat} {p q : Progress}

/-- What the tokens of a segment read they make with the values that are captured. Values that come
in later slots may be those of a longer match. -/
theorem tokensCapture_of_reads {tokens : List PatternToken} {values : Nat → Option (List Char)}
    (stands : StandsIn whole p) (reads : ReadsAll (tokenExpressions slot tokens) p q)
    (captured : ∀ group < slot + (PatternSegment.tokens tokens).names.length,
      values group = Match.captured? ⟨whole, q.marks⟩ group) :
    ∃ text, TokensCapture values slot tokens text ∧ Spans p text q := by
  induction tokens generalizing slot p with
  | nil =>
      obtain rfl : p = q := reads
      exact ⟨[], .nil, .nil p⟩
  | cons token tokens ih =>
      cases token with
      | literal part =>
          obtain ⟨m, first, others⟩ := reads
          obtain ⟨text, captures, span⟩ := ih (stands.of_reads first) others captured
          exact ⟨part ++ text, .literal captures, (spans_of_reads_literal first).append span⟩
      | parameter name constraint =>
          obtain ⟨m, first, others⟩ := reads
          obtain ⟨value, ⟨full, noSlash⟩, here⟩ :=
            spans_of_reads_capture (fun _ _ => spans_of_reads_inSegment_plus) first
          have count : (PatternSegment.tokens (.parameter name constraint :: tokens)).names.length =
            (PatternSegment.tokens tokens).names.length + 1 := rfl
          rw [count] at captured
          obtain ⟨text, captures, span⟩ := ih (stands.of_reads first) others
            fun group within => captured group (by omega)
          -- the tokens behind the variable leave its group alone
          have later := (carries_marks (slot + 1 ≤ ·)).of_readsAll
            (fun r member group own => (mem_groups_tokenExpressions r member group own).1) others
          have bound : values slot = some value := by
            rw [captured slot (by omega), later.captured?_eq (by omega),
              captured?_of_reads_capture stands List.not_mem_nil first here]
          exact ⟨value ++ text, .parameter bound full noSlash captures, here.append span⟩
      | star =>
          obtain ⟨m, first, others⟩ := reads
          obtain ⟨value, noSlash, here⟩ := spans_of_reads_inSegment_star first
          obtain ⟨text, captures, span⟩ := ih (stands.of_reads first) others captured
          exact ⟨value ++ text, .star noSlash captures, here.append span⟩
      | anyChar =>
          obtain ⟨m, first, others⟩ := reads
          obtain ⟨c, contains, here⟩ := spans_of_takes first
          rw [CharSet.contains_except, decide_eq_true_eq] at contains
          obtain ⟨text, captures, span⟩ := ih (stands.of_reads first) others captured
          exact ⟨c :: text, .anyChar contains captures, here.append span⟩

/-- What the expression of `{*name}` reads is captured behind its slash, if it takes part. -/
theorem segmentCaptures_of_reads_rest {values : Nat → Option (List Char)} (name : List Char)
    (stands : StandsIn whole p) (unmarked : ∀ mark ∈ p.marks, mark.group < slot)
    (reads : (Regex.seq (.literal ['/']) (.capture slot inLine.star)).optional.Reads p q)
    (captured : values slot = Match.captured? ⟨whole, q.marks⟩ slot) :
    ∃ text, SegmentCaptures values slot (.captureRest name) text ∧ Spans p text q := by
  rcases reads_optional reads with rfl | ⟨m, slash, rest⟩
  · have none : Match.captured? ⟨whole, p.marks⟩ slot = none :=
      captured?_eq_none fun mark member => Nat.ne_of_lt (unmarked mark member)
    exact ⟨[], .unbound (captured.trans none), .nil p⟩
  · obtain ⟨value, line, span⟩ :=
      spans_of_reads_capture (fun _ _ => spans_of_reads_inLine_star) rest
    have bound : Match.captured? ⟨whole, q.marks⟩ slot = some value :=
      captured?_of_reads_capture (stands.of_reads slash) List.not_mem_nil rest span
    exact ⟨'/' :: value, .bound (captured.trans bound) line,
      (spans_of_reads_literal slash).append span⟩

/-- What a segment reads it makes with the values that are captured. -/
theorem segmentCaptures_of_reads {segment : PatternSegment} {values : Nat → Option (List Char)}
    (stands : StandsIn whole p) (unmarked : ∀ mark ∈ p.marks, mark.group < slot)
    (reads : ReadsAll (segmentExpressions slot [segment]) p q)
    (captured : ∀ group < slot + segment.names.length,
      values group = Match.captured? ⟨whole, q.marks⟩ group) :
    ∃ text, SegmentCaptures values slot segment text ∧ Spans p text q := by
  cases segment with
  | any =>
      obtain ⟨m, first, same⟩ := reads
      obtain rfl : m = q := same
      obtain ⟨text, rest, span⟩ := isRest_of_reads first
      exact ⟨text, .any rest, span⟩
  | captureRest name =>
      obtain ⟨m, first, same⟩ := reads
      obtain rfl : m = q := same
      exact segmentCaptures_of_reads_rest name stands unmarked first
        (captured slot (Nat.lt_succ_self _))
  | tokens tokens =>
      obtain ⟨m, slash, others⟩ := reads
      obtain ⟨m', read, same⟩ := readsAll_append.1 others
      obtain rfl : m' = q := same
      obtain ⟨text, captures, span⟩ :=
        tokensCapture_of_reads (stands.of_reads slash) read captured
      exact ⟨'/' :: text, .tokens captures, (spans_of_reads_literal slash).append span⟩

/-- What segments read they make with the values that are captured. -/
theorem segmentsCapture_of_reads {segments : List PatternSegment} (stands : StandsIn whole p)
    (unmarked : ∀ mark ∈ p.marks, mark.group < slot)
    (reads : ReadsAll (segmentExpressions slot segments) p q) :
    ∃ text, SegmentsCapture (Match.captured? ⟨whole, q.marks⟩) slot segments text ∧
      Spans p text q := by
  induction segments generalizing slot p with
  | nil =>
      obtain rfl : p = q := reads
      exact ⟨[], .nil, .nil p⟩
  | cons segment segments ih =>
      rw [segmentExpressions_cons] at reads
      obtain ⟨m, first, others⟩ := readsAll_append.1 reads
      have here := (carries_marks (· < slot + segment.names.length)).of_readsAll
        (fun r member group own => (mem_groups_segmentExpression r member group own).2) first
      have later := (carries_marks (slot + segment.names.length ≤ ·)).of_readsAll
        le_of_mem_groups_segmentExpressions others
      have unmarked' : ∀ mark ∈ m.marks, mark.group < slot + segment.names.length :=
        here.forall_group fun mark member => Nat.lt_add_right _ (unmarked mark member)
      -- the segments that follow leave the groups of this one alone
      obtain ⟨text, captures, span⟩ := segmentCaptures_of_reads stands unmarked first
        fun group within => later.captured?_eq (Nat.not_le_of_lt within) whole
      obtain ⟨rest, captures', span'⟩ := ih (stands.of_readsAll first) unmarked' others
      exact ⟨text ++ rest, .cons captures captures', span.append span'⟩

end Pattern

open Pattern

namespace PathPattern

variable {pattern : PathPattern} {path : String} {found : Match}

/-- Whether a pattern leaves a text at the end of a path unread: nothing, or one slash if it allows
for one. -/
def LeavesUnread (pattern : PathPattern) (last : List Char) : Prop :=
  last = [] ∨
    (pattern.slashAllowed && pattern.text.toList.getLast? != some '/') = true ∧ last = ['/']

/-- What a search for a pattern without constraints finds has been read along the segments of the
pattern, from the beginning of the path to its end or the slash that is allowed there. -/
theorem reads_of_search?
    (unconstrained : pattern.segments.any PatternSegment.isConstrained = false)
    (search : pattern.expression.search? path.toList = some found) :
    ∃ m, ReadsAll (Pattern.segmentExpressions 0 pattern.segments) ⟨placeIn path.toList 0, []⟩ m ∧
      pattern.LeavesUnread m.place.rest ∧ found = ⟨path.toList, m.marks⟩ := by
  obtain ⟨whole, start, within, final, reads, marks⟩ := search?_reads search
  rw [pattern.direct unconstrained, Pattern.directExpression, reads_ofItems,
    List.append_assoc, List.cons_append] at reads
  obtain ⟨first, ⟨begins, rfl⟩, read⟩ := reads
  obtain ⟨m, read, last⟩ := readsAll_append.1 read
  -- the expression begins with the assertion that nothing precedes it
  have atStart : start = 0 := by
    have none : path.toList.take start = [] := by
      simpa [Assertion.holds, placeIn] using begins
    rcases List.take_eq_nil_iff.1 none with zero | empty
    · exact zero
    · rw [empty] at within
      exact Nat.le_zero.1 within
  rw [atStart] at read
  have same : found = ⟨path.toList, m.marks⟩ := by
    rw [← marks_eq_of_readsAll (by split <;> decide) last, marks, ← whole]
  refine ⟨m, read, ?_, same⟩
  have ends : ∀ {q}, ReadsAll [.check .textEnd] q final → q.place.rest = [] := by
    rintro q ⟨q', ⟨atEnd, -⟩, -⟩
    simpa [Assertion.holds] using atEnd
  split at last
  · rename_i allowed
    obtain ⟨m', one, last⟩ := last
    rcases reads_optional one with rfl | slash
    · exact .inl (ends last)
    · have span : m.place.rest = ['/'] ++ m'.place.rest := spans_of_reads_literal slash
      rw [ends last] at span
      exact .inr ⟨allowed, span⟩
  · exact .inl (ends last)

/-- A match of a pattern without constraints captures values with which the segments of the pattern
make the path, or the path without a slash at its end if the pattern allows for one. -/
theorem segmentsCapture_of_search?
    (unconstrained : pattern.segments.any PatternSegment.isConstrained = false)
    (search : pattern.expression.search? path.toList = some found) :
    ∃ text last, path.toList = text ++ last ∧ pattern.LeavesUnread last ∧
      SegmentsCapture found.captured? 0 pattern.segments text := by
  obtain ⟨m, reads, unread, rfl⟩ := reads_of_search? unconstrained search
  obtain ⟨text, captures, span⟩ := segmentsCapture_of_reads ⟨[], rfl, rfl⟩
    (fun _ member => absurd member List.not_mem_nil) reads
  exact ⟨text, m.place.rest, span, unread, captures⟩

end PathPattern
end RequestRouting
