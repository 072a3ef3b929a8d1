import RequestRouting.Proofs.Pattern.Braces
import RequestRouting.Proofs.Pattern.Captures
import RequestRouting.Proofs.Segment.Chain

/-!
# What the paths of a pattern consist of

The tokens of a path that a pattern matches can be distributed in order over the segments of the
pattern (`Distributes`): a multi-segment wildcard takes any number of them, and any other segment
takes one that its own tokens match from left to right. This is what the regular expression of a
pattern without constraints reads (`PathPattern.distributes_of_match?`).
-/

namespace RequestRouting

open Regex

namespace Pattern

/-- Whether the tokens of a segment match a text from left to right. -/
def TokensMatch : List PatternToken → List Char → Prop
  | [], text => text = []
  | .literal part :: tokens, text => ∃ rest, text = part ++ rest ∧ TokensMatch tokens rest
  | .parameter _ _ :: tokens, text =>
    ∃ value rest, text = value ++ rest ∧ value ≠ [] ∧ TokensMatch tokens rest
  | .star :: tokens, text => ∃ value rest, text = value ++ rest ∧ TokensMatch tokens rest
  | .anyChar :: tokens, text => ∃ c rest, text = c :: rest ∧ TokensMatch tokens rest

/-- Whether texts can be distributed in order over the segments of a pattern. -/
def Distributes : List PatternSegment → List (List Char) → Prop
  | [], texts => texts = []
  | .tokens tokens :: segments, texts =>
    ∃ text rest, texts = text :: rest ∧ TokensMatch tokens text ∧ Distributes segments rest
  | .any :: segments, texts | .captureRest _ :: segments, texts =>
    ∃ taken rest, texts = taken ++ rest ∧ (∀ text ∈ taken, '\n' ∉ text) ∧
      Distributes segments rest

/-! ## Literal text of a segment -/

/-- Whether no literal text among tokens has a slash. -/
def SlashFree (tokens : List PatternToken) : Prop :=
  ∀ text, .literal text ∈ tokens → '/' ∉ text

theorem slashFree_cons {token : PatternToken} {tokens : List PatternToken} :
    SlashFree (token :: tokens) ↔ (∀ text, token = .literal text → '/' ∉ text) ∧
      SlashFree tokens := by
  simp [SlashFree, or_imp, forall_and, eq_comm]

theorem slashFree_consLiteral {c : Char} {tokens : List PatternToken} (noSlash : c ≠ '/')
    (free : SlashFree tokens) : SlashFree (PatternToken.consLiteral c tokens) := by
  intro text member
  unfold PatternToken.consLiteral at member
  split at member
  · rename_i first others
    rcases List.mem_cons.1 member with same | later
    · obtain rfl := PatternToken.literal.inj same
      have here := free first List.mem_cons_self
      simpa using ⟨noSlash.symm, here⟩
    · exact free text (List.mem_cons_of_mem _ later)
  · rcases List.mem_cons.1 member with same | later
    · obtain rfl := PatternToken.literal.inj same
      simpa using noSlash.symm
    · exact free text later

/-- What follows a closing brace has been there before. -/
theorem subset_of_closingBrace? {depth : Nat} {cs inner rest : List Char}
    (closed : closingBrace? depth cs = some (inner, rest)) : rest ⊆ cs := by
  rw [(closes_of_closingBrace? closed).whole]
  exact List.subset_append_of_subset_right inner (List.subset_cons_self _ _)

theorem slashFree_read {part : List Char} (noSlash : '/' ∉ part) :
    SlashFree (PatternToken.read part) := by
  fun_induction PatternToken.read part with
  | case1 => exact fun _ member => absurd member List.not_mem_nil
  | case2 cs inner rest closed ih =>
      intro text member
      rcases List.mem_cons.1 member with same | later
      · unfold PatternToken.ofBraces at same
        split at same <;> exact PatternToken.noConfusion same
      · refine ih (fun slash => noSlash ?_) text later
        exact List.mem_cons_of_mem _ (subset_of_closingBrace? closed slash)
  | case3 cs unclosed ih =>
      exact slashFree_consLiteral (by decide) (ih (List.not_mem_of_not_mem_cons noSlash))
  | case4 cs ih | case5 cs ih =>
      intro text member
      rcases List.mem_cons.1 member with same | later
      · exact PatternToken.noConfusion same
      · exact ih (List.not_mem_of_not_mem_cons noSlash) text later
  | case6 c cs _ _ _ ih =>
      exact slashFree_consLiteral (List.ne_of_not_mem_cons noSlash).symm
        (ih (List.not_mem_of_not_mem_cons noSlash))

/-- Whether the literal text of a segment has no slash. -/
def IsSlashFree : PatternSegment → Prop
  | .tokens tokens => SlashFree tokens
  | .any | .captureRest _ => True

theorem isSlashFree_read {part : List Char} (noSlash : '/' ∉ part) :
    IsSlashFree (PatternSegment.read part) := by
  unfold PatternSegment.read
  split
  · trivial
  · split
    · trivial
    · exact slashFree_read noSlash

/-- A part between marks is a part of the text without a mark. -/
theorem of_mem_splitOn {mark : Char} {cs part : List Char} (member : part ∈ cs.splitOn mark) :
    mark ∉ part ∧ part ⊆ cs := by
  induction cs generalizing part with
  | nil =>
      obtain rfl : part = [] := by simpa using member
      exact ⟨List.not_mem_nil, List.nil_subset _⟩
  | cons c cs ih =>
      rw [List.splitOn_cons_eq_if_modifyHead] at member
      split at member
      · rcases List.mem_cons.1 member with rfl | later
        · exact ⟨List.not_mem_nil, List.nil_subset _⟩
        · exact ⟨(ih later).1, List.subset_cons_of_subset c (ih later).2⟩
      · rename_i other
        obtain ⟨first, rest, split⟩ := List.exists_cons_of_ne_nil (List.splitOn_ne_nil mark cs)
        rw [split, List.modifyHead_cons] at member
        rcases List.mem_cons.1 member with rfl | later
        · have different : mark ≠ c := fun same => other (by simp [same])
          have here : mark ∉ first ∧ first ⊆ cs := ih (by rw [split]; exact List.mem_cons_self)
          exact ⟨by simpa using ⟨different, here.1⟩, List.cons_subset_cons c here.2⟩
        · have there := ih (by rw [split]; exact List.mem_cons_of_mem _ later)
          exact ⟨there.1, List.subset_cons_of_subset c there.2⟩

/-- No token of a path has a slash. -/
theorem noSlash_tokensOf (path : List Char) : ∀ token ∈ tokensOf path, '/' ∉ token :=
  fun _ member => (of_mem_splitOn member).1

theorem isSlashFree_of_mem_segments {text : String} {segment : PatternSegment}
    (member : segment ∈ segments text) : IsSlashFree segment := by
  unfold segments at member
  obtain ⟨part, split, rfl⟩ := List.mem_map.1 member
  exact isSlashFree_read (of_mem_splitOn split).1

/-! ## What values make of segments -/

/-- Whether a text is a path for some segments: nothing, or a slash and texts that can be
distributed over the segments. -/
def IsPathFor (segments : List PatternSegment) (rest : List Char) : Prop :=
  rest = [] ∧ Distributes segments [] ∨
    ∃ body, rest = '/' :: body ∧ Distributes segments (body.splitOn '/')

/-- A multi-segment wildcard takes as many texts as stand between the slashes of what it reads. -/
theorem IsPathFor.wildcard {segment : PatternSegment} {segments : List PatternSegment}
    {text rest : List Char}
    (takesAny : ∀ taken rest, (∀ text ∈ taken, '\n' ∉ text) → Distributes segments rest →
      Distributes (segment :: segments) (taken ++ rest))
    (here : IsRest text) (later : IsPathFor segments rest) :
    IsPathFor (segment :: segments) (text ++ rest) := by
  rcases here with rfl | ⟨line, noLineFeed, rfl⟩
  · -- nothing is read, and the wildcard takes no text
    rw [List.nil_append]
    rcases later with ⟨none, distributes⟩ | ⟨body, some, distributes⟩
    · exact .inl ⟨none, takesAny [] _ (by simp) distributes⟩
    · exact .inr ⟨body, some, takesAny [] _ (by simp) distributes⟩
  · have lines : ∀ part ∈ line.splitOn '/', '\n' ∉ part :=
      fun part member lineFeed => noLineFeed ((of_mem_splitOn member).2 lineFeed)
    rcases later with ⟨rfl, distributes⟩ | ⟨body, rfl, distributes⟩
    · refine .inr ⟨line, List.append_nil _, ?_⟩
      have all := takesAny (line.splitOn '/') [] lines distributes
      rwa [List.append_nil] at all
    · refine .inr ⟨line ++ '/' :: body, rfl, ?_⟩
      rw [List.splitOn_append_cons_self]
      exact takesAny _ _ lines distributes

section

variable {values : Nat → Option (List Char)} {slot : Nat} {text : List Char}

/-- What values make of the tokens of a segment is a text without slashes that the tokens match. -/
theorem tokensMatch_of_captures {tokens : List PatternToken} (free : SlashFree tokens)
    (captures : TokensCapture values slot tokens text) : '/' ∉ text ∧ TokensMatch tokens text := by
  induction captures with
  | nil => exact ⟨List.not_mem_nil, rfl⟩
  | @literal _ _ part text _ ih =>
      obtain ⟨here, later⟩ := slashFree_cons.1 free
      obtain ⟨noSlash, matched⟩ := ih later
      exact ⟨by simp [here part rfl, noSlash], text, rfl, matched⟩
  | parameter _ full noSlashHere _ ih =>
      obtain ⟨noSlash, matched⟩ := ih (slashFree_cons.1 free).2
      exact ⟨by simp [noSlashHere, noSlash], _, _, rfl, full, matched⟩
  | star noSlashHere _ ih =>
      obtain ⟨noSlash, matched⟩ := ih (slashFree_cons.1 free).2
      exact ⟨by simp [noSlashHere, noSlash], _, _, rfl, matched⟩
  | anyChar noSlashHere _ ih =>
      obtain ⟨noSlash, matched⟩ := ih (slashFree_cons.1 free).2
      exact ⟨by simp [noSlashHere.symm, noSlash], _, _, rfl, matched⟩

/-- A text without slashes that the tokens of a segment match is the first one of a path. -/
theorem IsPathFor.tokens {tokens : List PatternToken} {segments : List PatternSegment}
    {rest : List Char} (noSlash : '/' ∉ text) (matched : TokensMatch tokens text)
    (later : IsPathFor segments rest) :
    IsPathFor (.tokens tokens :: segments) ('/' :: text ++ rest) := by
  rcases later with ⟨rfl, distributes⟩ | ⟨body, rfl, distributes⟩
  · refine .inr ⟨text, List.append_nil _, ?_⟩
    rw [List.splitOn_eq_singleton noSlash]
    exact ⟨text, [], rfl, matched, distributes⟩
  · refine .inr ⟨text ++ '/' :: body, rfl, ?_⟩
    rw [List.splitOn_append_cons_self_of_not_mem noSlash]
    exact ⟨text, _, rfl, matched, distributes⟩

/-- What values make of segments is a path for the segments. -/
theorem isPathFor_of_captures {segments : List PatternSegment}
    (free : ∀ segment ∈ segments, IsSlashFree segment)
    (captures : SegmentsCapture values slot segments text) : IsPathFor segments text := by
  induction captures with
  | nil => exact .inl ⟨rfl, rfl⟩
  | cons first _ ih =>
      obtain ⟨freeHere, freeLater⟩ := List.forall_mem_cons.1 free
      have later := ih freeLater
      cases first with
      | tokens captures =>
          obtain ⟨noSlash, matched⟩ := tokensMatch_of_captures freeHere captures
          exact .tokens noSlash matched later
      | any rest =>
          exact .wildcard (fun taken rest lines later => ⟨taken, rest, rfl, lines, later⟩)
            rest later
      | bound _ line =>
          exact .wildcard (fun taken rest lines later => ⟨taken, rest, rfl, lines, later⟩)
            (.inr ⟨_, line, rfl⟩) later
      | unbound =>
          exact .wildcard (fun taken rest lines later => ⟨taken, rest, rfl, lines, later⟩)
            (.inl rfl) later

end

end Pattern

namespace PathPattern

theorem segments_ne_nil (pattern : PathPattern) : pattern.segments ≠ [] := by
  rw [segments, Pattern.segments]
  exact fun none => List.splitOn_ne_nil _ _ (List.map_eq_nil_iff.1 none)

variable {pattern : PathPattern} {path : String}

/-- A path that a pattern without constraints matches is one for its segments, or such a path with
one more slash if the pattern allows it. -/
theorem isPathFor_of_match?
    (unconstrained : pattern.segments.any PatternSegment.isConstrained = false)
    (matched : (pattern.match? path).isSome) :
    Pattern.IsPathFor pattern.segments path.toList ∨
      (pattern.slashAllowed && pattern.text.toList.getLast? != some '/') = true ∧
        ∃ shorter, path.toList = shorter ++ ['/'] ∧ Pattern.IsPathFor pattern.segments shorter := by
  obtain ⟨found, search⟩ : ∃ found, pattern.expression.search? path.toList = some found := by
    simpa [match?, Option.isSome_iff_exists] using matched
  obtain ⟨text, last, whole, unread, captures⟩ := segmentsCapture_of_search? unconstrained search
  have left :=
    Pattern.isPathFor_of_captures (fun _ => Pattern.isSlashFree_of_mem_segments) captures
  rcases unread with rfl | ⟨allowed, rfl⟩
  · rw [List.append_nil] at whole
    exact .inl (whole ▸ left)
  · exact .inr ⟨allowed, text, whole, left⟩

/-- A path that begins with a slash is one for segments if what stands between its slashes can be
distributed over them. -/
theorem distributes_of_isPathFor {segments : List PatternSegment} {path : List Char}
    (slash : path.head? = some '/') (left : Pattern.IsPathFor segments path) :
    Pattern.Distributes segments (tokensOf path) := by
  rcases left with ⟨rfl, -⟩ | ⟨body, rfl, distributes⟩
  · exact absurd slash (by simp)
  · exact distributes

/-- The tokens of a path that a pattern without constraints matches can be distributed over the
segments of the pattern. -/
theorem distributes_of_match?
    (unconstrained : pattern.segments.any PatternSegment.isConstrained = false)
    (exact : pattern.slashAllowed = false) (slash : path.toList.head? = some '/')
    (matched : (pattern.match? path).isSome) :
    Pattern.Distributes pattern.segments (tokensOf path.toList) := by
  rcases isPathFor_of_match? unconstrained matched with left | ⟨allowed, -⟩
  · exact distributes_of_isPathFor slash left
  · rw [exact] at allowed
    exact absurd allowed (by simp)

end PathPattern
end RequestRouting
