import RequestRouting.Proofs.Tree.Structure
import RequestRouting.Registry.Basic

/-!
# The segments of a chain

The chain of a pattern or a request is the name of the method and, after it, one segment for
each token between the slashes of the path (`segments_ofPattern`, `segments_ofRequest`). Only
the last token is treated apart: if it is empty, the path ended with a slash.
-/

namespace RequestRouting

/-- What stands between the slashes of a path. The slash at its beginning does not count. -/
def tokensOf (path : List Char) : List (List Char) :=
  (Chain.body path).splitOn '/'

theorem tokensOf_ne_nil (path : List Char) : tokensOf path ≠ [] :=
  List.splitOn_ne_nil _ _

/-- The segments of the tokens of a path, in which an empty last token is the root segment. -/
def finished (make : List Char → Segment) : List (List Char) → List Segment
  | [] => []
  | [token] => [if token = [] then .root else make token]
  | token :: tokens => make token :: finished make tokens

theorem finished_cons {make : List Char → Segment} {tokens : List (List Char)}
    (more : tokens ≠ []) (token : List Char) :
    finished make (token :: tokens) = make token :: finished make tokens := by
  cases tokens with
  | nil => exact absurd rfl more
  | cons next tokens => rfl

/-- Behind a first token, the tokens of a text have the segments of a path. -/
theorem segmentsOf_cons {make : List Char → Segment} {tokens : List (List Char)}
    (more : tokens ≠ []) (token : List Char) :
    segmentsOf make (token :: tokens) = make token :: finished make tokens := by
  induction tokens generalizing token with
  | nil => exact absurd rfl more
  | cons next tokens ih =>
      cases tokens with
      | nil => cases next <;> simp [segmentsOf, finished]
      | cons other tokens =>
          rw [finished_cons (by simp), ← ih (by simp)]
          simp [segmentsOf]

theorem finished_append {make : List Char → Segment} {tokens : List (List Char)}
    (some : tokens ≠ []) (front : List (List Char)) :
    finished make (front ++ tokens) = front.map make ++ finished make tokens := by
  induction front with
  | nil => rfl
  | cons token front ih =>
      rw [List.cons_append, finished_cons (by simp [some]), ih]
      rfl

theorem segmentsOf_append {make : List Char → Segment} {front tokens : List (List Char)}
    (some_front : front ≠ []) (some : tokens ≠ []) :
    segmentsOf make (front ++ tokens) = front.map make ++ finished make tokens := by
  obtain ⟨token, front, rfl⟩ := List.exists_cons_of_ne_nil some_front
  rw [List.cons_append, segmentsOf_cons (by simp [some]), finished_append some]
  rfl

theorem mem_finished {make : List Char → Segment} {tokens : List (List Char)} {segment : Segment}
    (member : segment ∈ finished make tokens) :
    segment = .root ∨ ∃ token ∈ tokens, segment = make token := by
  induction tokens with
  | nil => simp [finished] at member
  | cons token tokens ih =>
      by_cases last : tokens = []
      · subst last
        simp only [finished, List.mem_singleton] at member
        split at member
        · exact .inl member
        · exact .inr ⟨token, List.mem_cons_self, member⟩
      · rw [finished_cons last] at member
        rcases List.mem_cons.1 member with here | later
        · exact .inr ⟨token, List.mem_cons_self, here⟩
        · rcases ih later with root | ⟨token, member, made⟩
          · exact .inl root
          · exact .inr ⟨token, List.mem_cons_of_mem _ member, made⟩

/-! ## Names of methods -/

theorem Method.upper_name (method : Method) :
    Text.upper method.name.toList = method.name.toList := by
  cases method <;> decide +kernel

theorem Method.slash_not_mem_name (method : Method) : '/' ∉ method.name.toList := by
  cases method <;> decide

theorem Method.ofToken_name (method : Method) :
    Segment.ofToken method.name.toList = .literal method.name.toList := by
  cases method <;> decide

theorem Method.name_injective : Function.Injective Method.name := by
  intro a b same
  cases a <;> cases b <;> first | rfl | exact absurd same (by decide)

theorem Method.canonicalKey?_ne_name (style : SegmentStyle) (method : Method) :
    style.canonicalKey? ≠ some method.name := by
  cases style <;> cases method <;> decide

/-! ## The two kinds of chains -/

/-- A combined text is split at the slashes of the method, if it has any, at the one behind it and
at those of the path. -/
theorem segments_split (make : List Char → Segment) (method path : String) :
    (Chain.split make (combine method path)).segments =
      ((Text.upper method.toList).splitOn '/').map make ++
        finished make (tokensOf path.toList) := by
  have text : (combine method path).toList =
      '/' :: (Text.upper method.toList ++ '/' :: Chain.body path.toList) := by
    simp only [combine, String.toList_ofList]
    cases h : path.toList with
    | nil => simp [Chain.body]
    | cons c cs =>
        by_cases slash : c = '/'
        · subst slash
          simp [Chain.body]
        · simp [Chain.body, slash]
  have long : combine method path ≠ "/" := by
    intro short
    rw [short] at text
    simp at text
  have body : Chain.body (combine method path).toList =
      Text.upper method.toList ++ '/' :: Chain.body path.toList := by
    rw [text, Chain.body]
  have tokens : (Chain.body (combine method path).toList).splitOn '/' =
      (Text.upper method.toList).splitOn '/' ++ tokensOf path.toList := by
    rw [body, List.splitOn_append_cons_self]
    rfl
  unfold Chain.split
  rw [if_neg long]
  dsimp only
  rw [tokens]
  exact segmentsOf_append (List.splitOn_ne_nil _ _) (tokensOf_ne_nil _)

/-- The name of a method has no slash, so that it is a single segment. -/
theorem segments_split_combine (make : List Char → Segment) (method : Method) (path : String) :
    (Chain.split make (combine method.name path)).segments =
      make method.name.toList :: finished make (tokensOf path.toList) := by
  rw [segments_split, method.upper_name, List.splitOn_eq_singleton method.slash_not_mem_name]
  rfl

theorem segments_ofPattern (method : Method) (pattern : String) :
    (Chain.ofPattern method.name pattern).segments =
      .literal method.name.toList :: finished .ofToken (tokensOf pattern.toList) := by
  rw [← method.ofToken_name]
  exact segments_split_combine .ofToken method pattern

theorem segments_ofRequest (method : Method) (path : String) :
    (Chain.ofRequest method.name path).segments =
      .literal method.name.toList :: finished .literal (tokensOf path.toList) :=
  segments_split_combine .literal method path

/-! ## Plain text -/

/-- Whether a segment of a request is not the text that all segments of some style share. -/
def Segment.IsPlain (segment : Segment) : Prop :=
  ∀ style : SegmentStyle, style.canonicalKey? ≠ some segment.text

instance (segment : Segment) : Decidable segment.IsPlain :=
  decidable_of_iff (∀ style ∈ SegmentStyle.all, style.canonicalKey? ≠ some segment.text)
    ⟨fun each style => each style (by cases style <;> decide), fun plain style _ => plain style⟩

/-! ## Canonical segments -/

theorem SegmentStyle.eq_of_canonicalKey? {style other : SegmentStyle} {key : String}
    (h : style.canonicalKey? = some key) (h' : other.canonicalKey? = some key) :
    style = other := by
  cases style <;> cases other <;> simp_all [canonicalKey?] <;>
    exact absurd (h.trans h'.symm) (by decide)

namespace Segment

theorem isCanonical_of_key {segment : Segment}
    (own : segment.style.canonicalKey? = some segment.text) : segment.IsCanonical := by
  intro style key h
  constructor
  · rintro rfl
    exact SegmentStyle.eq_of_canonicalKey? own h
  · rintro rfl
    exact Option.some.inj (own.symm.trans h)

theorem isCanonical_of_literal {segment : Segment} (literal : segment.style = .literal)
    (plain : segment.IsPlain) : segment.IsCanonical := by
  intro style key h
  constructor
  · rintro rfl
    exact absurd h (plain style)
  · rintro rfl
    simp [literal, SegmentStyle.canonicalKey?] at h

/-- A canonical segment that is not read as another style is literal. -/
theorem IsCanonical.style_of_isPlain {segment : Segment} (canonical : segment.IsCanonical)
    (plain : segment.IsPlain) : segment.style = .literal := by
  cases style : segment.style with
  | literal => rfl
  | parameter | wildcard | doubleWildcard =>
      have key := (canonical segment.style _ (by rw [style]; rfl)).2 rfl
      exact absurd (by rw [style, key]; rfl) (plain segment.style)

theorem isCanonical_root : root.IsCanonical :=
  isCanonical_of_literal rfl fun style => by cases style <;> decide

/-- A token that is not read as another style does not have the key of one. -/
theorem isCanonical_ofToken (token : List Char) : (ofToken token).IsCanonical := by
  unfold ofToken
  split
  · exact isCanonical_of_key rfl
  · split
    · exact isCanonical_of_key rfl
    · split
      · split <;> exact isCanonical_of_key rfl
      · rename_i notStar notStars _ notBraced
        refine isCanonical_of_literal rfl fun style same => ?_
        have text : ∀ key : String, style.canonicalKey? = some key → token = key.toList := by
          intro key h
          rw [same] at h
          rw [← Option.some.inj h]
          simp [literal]
        cases style with
        | literal => exact absurd same (by simp [SegmentStyle.canonicalKey?])
        | parameter =>
            rw [text _ rfl] at notBraced
            exact absurd notBraced (by decide)
        | wildcard => exact notStar (text _ rfl)
        | doubleWildcard => exact notStars (text _ rfl)

end Segment

/-- Canonical segments are told by their keys. -/
theorem eq_of_keys {segments others : List Segment}
    (canonical : ∀ segment ∈ segments, segment.IsCanonical)
    (canonicalOthers : ∀ segment ∈ others, segment.IsCanonical)
    (same : segments.map (·.text) = others.map (·.text)) : segments = others := by
  induction segments generalizing others with
  | nil => exact (List.map_eq_nil_iff.1 same.symm).symm
  | cons segment segments ih =>
      obtain ⟨other, rest, rfl, sameText, sameRest⟩ := List.map_eq_cons_iff.1 same.symm
      rw [(canonical segment List.mem_cons_self).eq_of_text
          (canonicalOthers other List.mem_cons_self) sameText.symm,
        ih (fun segment member => canonical segment (List.mem_cons_of_mem _ member))
          (fun segment member => canonicalOthers segment (List.mem_cons_of_mem _ member))
          sameRest.symm]

theorem isCanonical_of_mem_ofPattern {method : Method} {pattern : String} {segment : Segment}
    (member : segment ∈ (Chain.ofPattern method.name pattern).segments) :
    segment.IsCanonical := by
  rw [segments_ofPattern, ← method.ofToken_name] at member
  rcases List.mem_cons.1 member with rfl | member
  · exact Segment.isCanonical_ofToken _
  · rcases mem_finished member with rfl | ⟨token, _, rfl⟩
    · exact Segment.isCanonical_root
    · exact Segment.isCanonical_ofToken token

end RequestRouting
