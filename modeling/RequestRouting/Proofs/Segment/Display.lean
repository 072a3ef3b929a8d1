import RequestRouting.Proofs.Pattern.Literal

/-!
# Displaying chains

A text that begins with a slash is displayed unchanged by its literal chain
(`Chain.display_createLiteral`). The chain of canonical segments is displayed as a text with the
same chain (`Chain.create_display`).
-/

namespace RequestRouting

open Pattern

/-! ## Canonical tokens -/

namespace Segment

variable {token : List Char}

theorem ofToken_cases (token : List Char) :
    ofToken token = wildcard ∨ ofToken token = doubleWildcard ∨ ofToken token = parameter ∨
      ofToken token = literal token := by
  unfold ofToken
  split
  · exact .inl rfl
  · split
    · exact .inr (.inl rfl)
    · split
      · split
        · exact .inr (.inl rfl)
        · exact .inr (.inr (.inl rfl))
      · exact .inr (.inr (.inr rfl))

theorem isRoot_ofToken (noSlash : '/' ∉ token) : (ofToken token).isRoot = false := by
  rcases ofToken_cases token with same | same | same | same
  all_goals rw [same]
  · rfl
  · rfl
  · rfl
  · exact isRoot_literal noSlash

/-- A token in canonical form. -/
def canonicalToken (token : List Char) : List Char :=
  (ofToken token).written

theorem canonicalToken_eq_nil_iff (noSlash : '/' ∉ token) :
    canonicalToken token = [] ↔ token = [] := by
  constructor
  · intro empty
    unfold canonicalToken at empty
    rcases ofToken_cases token with same | same | same | same
    all_goals rw [same] at empty
    · exact absurd empty (by decide)
    · exact absurd empty (by decide)
    · exact absurd empty (by decide)
    · rwa [written_literal noSlash] at empty
  · rintro rfl
    rfl

theorem slash_not_mem_canonicalToken (noSlash : '/' ∉ token) : '/' ∉ canonicalToken token := by
  unfold canonicalToken
  rcases ofToken_cases token with same | same | same | same
  all_goals rw [same]
  · decide
  · decide
  · decide
  · rwa [written_literal noSlash]

/-- The canonical form of a token has the same segment. -/
theorem ofToken_canonicalToken (noSlash : '/' ∉ token) :
    ofToken (canonicalToken token) = ofToken token := by
  unfold canonicalToken
  rcases ofToken_cases token with same | same | same | same
  · rw [same]
    decide
  · rw [same]
    decide
  · rw [same]
    decide
  · have unchanged : (ofToken token).written = token := by rw [same, written_literal noSlash]
    rw [unchanged]

end Segment

/-! ## Texts between slashes -/

section

variable {make : List Char → Segment} {texts tokens : List (List Char)}

theorem splitOn_append_joined {text : List Char} (noSlash : '/' ∉ text)
    (others : ∀ text ∈ texts, '/' ∉ text) :
    (text ++ joined texts).splitOn '/' = text :: texts := by
  induction texts generalizing text with
  | nil => rw [joined, List.flatMap_nil, List.append_nil, List.splitOn_eq_singleton noSlash]
  | cons next texts ih =>
      obtain ⟨here, later⟩ := List.forall_mem_cons.1 others
      have first : text ++ joined (next :: texts) = text ++ '/' :: (next ++ joined texts) := rfl
      rw [first, List.splitOn_append_cons_self_of_not_mem noSlash, ih here later]

/-- The tokens of a path are the texts that it was made of. -/
theorem tokensOf_joined (some : texts ≠ []) (noSlash : ∀ text ∈ texts, '/' ∉ text) :
    tokensOf (joined texts) = texts := by
  obtain ⟨text, texts, rfl⟩ := List.exists_cons_of_ne_nil some
  obtain ⟨here, later⟩ := List.forall_mem_cons.1 noSlash
  exact splitOn_append_joined here later

/-- Tokens can be exchanged before segments are made of them, if empty ones stay empty. -/
theorem finished_map {f : List Char → List Char}
    (empty : ∀ token ∈ tokens, f token = [] ↔ token = []) :
    finished make (tokens.map f) = finished (fun token => make (f token)) tokens := by
  induction tokens with
  | nil => rfl
  | cons token tokens ih =>
      obtain ⟨here, later⟩ := List.forall_mem_cons.1 empty
      by_cases last : tokens = []
      · subst last
        simp only [List.map_singleton, finished, here]
      · rw [List.map_cons, finished_cons (by simpa using last), ih later, finished_cons last]

/-- The only token of a text is treated like a last one, unless it is empty. -/
theorem segmentsOf_eq_finished (some : tokens ≠ [[]]) :
    segmentsOf make tokens = finished make tokens := by
  cases tokens with
  | nil => rfl
  | cons token tokens =>
      by_cases last : tokens = []
      · subst last
        have full : token ≠ [] := fun empty => some (by rw [empty])
        rw [segmentsOf, finished, if_neg full]
      · rw [segmentsOf_cons last, finished_cons last]

/-- All segments but the last one are made of tokens. -/
theorem dropLast_segmentsOf (make : List Char → Segment) (tokens : List (List Char)) :
    (segmentsOf make tokens).dropLast = tokens.dropLast.map make := by
  rcases List.eq_nil_or_concat' tokens with rfl | ⟨front, last, rfl⟩
  · rfl
  · rw [List.dropLast_concat]
    by_cases only : front = []
    · rw [only]
      rfl
    · rw [segmentsOf_append only (List.cons_ne_nil last []), finished, List.dropLast_concat]

end

/-! ## Chains -/

namespace Chain

/-- Whether a chain has segments, of which only the last one can be the root segment. -/
def RootOnlyAtEnd (chain : Chain) : Prop :=
  chain.segments ≠ [] ∧ ∀ segment ∈ chain.segments.dropLast, segment.isRoot = false

variable {text : String}

theorem eq_of_segments {chain other : Chain} (same : chain.segments = other.segments) :
    chain = other := by
  cases chain
  cases other
  simpa using same

theorem display_eq (chain : Chain) :
    chain.display = String.ofList (joined (chain.segments.map Segment.written)) := by
  have each : ∀ segment : Segment,
      (if segment.isRoot then ['/'] else '/' :: segment.text.toList) = '/' :: segment.written := by
    intro segment
    unfold Segment.written
    split <;> rfl
  simp only [display, each, joined, List.flatMap_map]

/-- A text that begins with a slash has the segments of a path. -/
theorem segments_split_of_slash (make : List Char → Segment)
    (slash : text.toList.head? = some '/') :
    (split make text).segments = finished make (tokensOf text.toList) := by
  unfold split
  split
  · rename_i root
    rw [root]
    rfl
  · rename_i notRoot
    refine segmentsOf_eq_finished fun only => notRoot ?_
    have whole := joined_tokensOf slash
    rw [tokensOf, only] at whole
    exact String.toList_injective whole.symm

theorem rootOnlyAtEnd_split {make : List Char → Segment}
    (noRoot : ∀ token, '/' ∉ token → (make token).isRoot = false) (text : String) :
    RootOnlyAtEnd (split make text) := by
  refine ⟨(split make text).nonempty, fun segment member => ?_⟩
  unfold split at member
  split at member
  · exact absurd member List.not_mem_nil
  · rw [dropLast_segmentsOf] at member
    obtain ⟨token, inside, rfl⟩ := List.mem_map.1 member
    exact noRoot token (noSlash_tokensOf text.toList token (List.dropLast_subset _ inside))

/-- A literal chain is displayed as the text that it was made of. -/
theorem display_createLiteral (slash : text.toList.head? = some '/') :
    (createLiteral text).display = text := by
  rw [display_eq, createLiteral, segments_split_of_slash _ slash,
    map_written_literal (noSlash_tokensOf text.toList), joined_tokensOf slash, String.ofList_toList]

theorem segments_create (slash : text.toList.head? = some '/') :
    (create text).segments = finished .ofToken (tokensOf text.toList) :=
  segments_split_of_slash _ slash

/-- A chain of canonical segments is displayed with each token in canonical form. -/
theorem display_create (slash : text.toList.head? = some '/') :
    (create text).display =
      String.ofList (joined ((tokensOf text.toList).map Segment.canonicalToken)) := by
  rw [display_eq, segments_create slash, map_written_finished rfl]
  rfl

/-- What a chain of canonical segments is displayed as has the same chain. -/
theorem create_display (slash : text.toList.head? = some '/') :
    create (create text).display = create text := by
  have noSlash := noSlash_tokensOf text.toList
  have full := tokensOf_ne_nil text.toList
  have shown : (create text).display.toList =
      joined ((tokensOf text.toList).map Segment.canonicalToken) := by
    rw [display_create slash, String.toList_ofList]
  have slash' : (create text).display.toList.head? = some '/' := by
    obtain ⟨token, others, tokens⟩ := List.exists_cons_of_ne_nil full
    rw [shown, tokens]
    rfl
  have tokens : tokensOf (create text).display.toList =
      (tokensOf text.toList).map Segment.canonicalToken := by
    rw [shown, tokensOf_joined (by simpa using full)]
    intro part member
    obtain ⟨token, inside, rfl⟩ := List.mem_map.1 member
    exact Segment.slash_not_mem_canonicalToken (noSlash token inside)
  refine eq_of_segments ?_
  calc (create (create text).display).segments
      = finished .ofToken ((tokensOf text.toList).map Segment.canonicalToken) := by
        rw [segments_create slash', tokens]
    _ = finished (fun token => .ofToken (Segment.canonicalToken token)) (tokensOf text.toList) :=
        finished_map fun token member => Segment.canonicalToken_eq_nil_iff (noSlash token member)
    _ = finished .ofToken (tokensOf text.toList) :=
        finished_congr fun token member => Segment.ofToken_canonicalToken (noSlash token member)
    _ = (create text).segments := (segments_create slash).symm

theorem toList_combine (method path : String) : (combine method path).toList =
    '/' :: Text.upper method.toList ++ (Pattern.slashed path).toList := by
  unfold combine Pattern.slashed
  split <;> simp

/-- The chain of a request tells its path, but for a leading slash that is left out. -/
theorem ofRequest_eq_iff {method path other : String} :
    ofRequest method path = ofRequest method other ↔
      Pattern.slashed path = Pattern.slashed other := by
  have texts : combine method path = combine method other ↔
      Pattern.slashed path = Pattern.slashed other := by
    rw [← String.toList_inj, toList_combine, toList_combine, List.append_cancel_left_eq,
      String.toList_inj]
  rw [← texts]
  constructor
  · intro same
    have slash : ∀ path, (combine method path).toList.head? = some '/' := by
      intro path
      rw [toList_combine]
      rfl
    rw [← display_createLiteral (slash path), ← display_createLiteral (slash other)]
    exact congrArg display same
  · exact congrArg createLiteral

/-- Splitting into a chain loses nothing. A text that begins with a slash is displayed unchanged by
its literal chain, so that different texts and different paths have different chains, and the
display of its canonical chain has the same chain. A chain is never empty, and only its last segment
can be the root segment. -/
theorem splitting_loses_nothing :
    (∀ text : String, text.toList.head? = some '/' →
      (createLiteral text).display = text ∧ create (create text).display = create text ∧
        ∀ other : String, other.toList.head? = some '/' →
          createLiteral text = createLiteral other → text = other) ∧
      (∀ method path other, ofRequest method path = ofRequest method other ↔
        Pattern.slashed path = Pattern.slashed other) ∧
      ∀ text, RootOnlyAtEnd (create text) ∧ RootOnlyAtEnd (createLiteral text) := by
  refine ⟨fun text slash => ⟨display_createLiteral slash, create_display slash, ?_⟩,
    fun method path other => ofRequest_eq_iff, fun text => ⟨?_, ?_⟩⟩
  · intro other slash' same
    rw [← display_createLiteral slash, same, display_createLiteral slash']
  · exact rootOnlyAtEnd_split (fun token => Segment.isRoot_ofToken) text
  · exact rootOnlyAtEnd_split (fun token => isRoot_literal) text

/-- Segments can be empty, inside of a path as well as in front of the slash at its end. -/
theorem splitting_loses_nothing_of_empty_segments :
    (createLiteral "//a/\x7bid\x7d//").display = "//a/\x7bid\x7d//" ∧
      create "//a/\x7b\x7d//" = create "//a/\x7bid\x7d//" ∧
      createLiteral "//a/\x7bid\x7d//" ≠ createLiteral "//a/\x7bid\x7d/" := by
  obtain ⟨unchanged, again, distinct⟩ :=
    splitting_loses_nothing.1 "//a/\x7bid\x7d//" (by decide)
  refine ⟨unchanged, ?_, fun same => ?_⟩
  · have shown : (create "//a/\x7bid\x7d//").display = "//a/\x7b\x7d//" := by decide +kernel
    rwa [shown] at again
  · exact absurd (distinct "//a/\x7bid\x7d/" (by decide) same) (by decide)

end Chain

end RequestRouting
