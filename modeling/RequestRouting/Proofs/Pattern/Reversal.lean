import RequestRouting.Proofs.Pattern.Distribution
import RequestRouting.Regex.Standard

/-!
# A path from the values of its variables

A path is written again from the values that a pattern without wildcards has captured in it,
except that `{*name}` is written with exactly one slash in front of text, or not at all. If the
variables of a pattern have different names, it gives each path back from its own match exactly
where this makes no difference (`PathPattern.reverse?_eq_path_iff`).
-/

namespace RequestRouting

open Regex Pattern

/-- Whether a token stands for text that is neither written out nor named. -/
def PatternToken.isWildcard : PatternToken → Bool
  | star | anyChar => true
  | literal _ | parameter _ _ => false

/-- Whether a segment has a part that stands for text that is neither written out nor named. -/
def PatternSegment.isWildcard : PatternSegment → Bool
  | any => true
  | captureRest _ => false
  | tokens parts => parts.any PatternToken.isWildcard

theorem mapM_cons_eq_some {α β : Type} {f : α → Option β} {a : α} {as : List α} {bs : List β} :
    (a :: as).mapM f = some bs ↔
      ∃ b rest, f a = some b ∧ as.mapM f = some rest ∧ bs = b :: rest := by
  rw [List.mapM_cons]
  cases f a <;> cases as.mapM f <;> simp [eq_comm]

namespace PathPattern

/-! ## The values of a match -/

section

variable {found : Match} {params : Dictionary} {entries : List (String × Nat)} {name : String}

/-- The values with that of one slot added, if it has one. -/
def bindSlot (found : Match) (params : Dictionary) (entry : String × Nat) : Dictionary :=
  match found.captured? entry.2 with
  | some value => params.insert entry.1 (String.ofList value)
  | none => params

theorem get?_bindSlot (entry : String × Nat) :
    (bindSlot found params entry).get? name =
      if name = entry.1 then ((found.captured? entry.2).map String.ofList).or (params.get? name)
      else params.get? name := by
  unfold bindSlot
  split
  · rename_i value captured
    rw [Dictionary.get?_insert, captured]
    rfl
  · rename_i none
    rw [none]
    simp

theorem get?_foldl_bindSlot_of_not_mem (absent : name ∉ entries.map Prod.fst) :
    (entries.foldl (bindSlot found) params).get? name = params.get? name := by
  induction entries generalizing params with
  | nil => rfl
  | cons entry entries ih =>
      rw [List.map_cons, List.mem_cons, not_or] at absent
      rw [List.foldl_cons, ih absent.2, get?_bindSlot, if_neg absent.1]

theorem get?_foldl_bindSlot {slot : Nat} (distinct : (entries.map Prod.fst).Nodup)
    (member : (name, slot) ∈ entries) (unset : params.get? name = none) :
    (entries.foldl (bindSlot found) params).get? name =
      (found.captured? slot).map String.ofList := by
  induction entries generalizing params with
  | nil => exact absurd member List.not_mem_nil
  | cons entry entries ih =>
      rw [List.map_cons, List.nodup_cons] at distinct
      rw [List.foldl_cons]
      rcases List.mem_cons.1 member with rfl | later
      · rw [get?_foldl_bindSlot_of_not_mem distinct.1, get?_bindSlot, if_pos rfl, unset,
          Option.or_none]
      · refine ih distinct.2 later ?_
        have other : name ≠ entry.1 := fun same =>
          distinct.1 (same ▸ List.mem_map_of_mem later)
        rw [get?_bindSlot, if_neg other, unset]

/-- Whether parameters have the values of the slots from `slot` on under these names. -/
def Binds (params : Dictionary) (values : Nat → Option (List Char)) (slot : Nat)
    (names : List (List Char)) : Prop :=
  ∀ index name, names[index]? = some name →
    params.get? (String.ofList name) = (values (slot + index)).map String.ofList

theorem Binds.append {values : Nat → Option (List Char)} {slot : Nat}
    {names more : List (List Char)} (binds : Binds params values slot (names ++ more)) :
    Binds params values slot names ∧ Binds params values (slot + names.length) more := by
  constructor
  · intro index name named
    have inside : index < names.length := (List.getElem?_eq_some_iff.1 named).1
    exact binds index name (by rwa [List.getElem?_append_left inside])
  · intro index name named
    rw [Nat.add_assoc]
    refine binds _ name ?_
    rwa [List.getElem?_append_right (Nat.le_add_right _ _), Nat.add_sub_cancel_left]

/-- Variables with different names have the values of their own slots. -/
theorem binds_bind {names : List (List Char)} (found : Match)
    (distinct : (names.map String.ofList).Nodup) :
    Binds (bind (names.map String.ofList) found) found.captured? 0 names := by
  intro index name named
  rw [Nat.zero_add]
  refine get?_foldl_bindSlot ?_ (List.mem_zipIdx_iff_getElem?.2 ?_) rfl
  · rwa [List.zipIdx_map_fst]
  · simp [named]

end

/-! ## The text of one segment -/

/-- Whether a segment made this text in a match that left these parameters. -/
inductive Makes (params : Dictionary) : PatternSegment → List Char → Prop where
  | tokens {tokens texts} (written : tokens.mapM (tokenText? params) = some texts) :
    Makes params (.tokens tokens) ('/' :: texts.flatten)
  | bound {name value} (bound : params.get? (String.ofList name) = some value) :
    Makes params (.captureRest name) ('/' :: value.toList)
  | unbound {name} (unbound : params.get? (String.ofList name) = none) :
    Makes params (.captureRest name) []

variable {params : Dictionary} {values : Nat → Option (List Char)} {slot : Nat}
  {text : List Char} {segment : PatternSegment} {segments : List PatternSegment}

theorem tokenTexts_of_captures {tokens : List PatternToken}
    (closed : tokens.any PatternToken.isWildcard = false)
    (captures : TokensCapture values slot tokens text)
    (binds : Binds params values slot (PatternSegment.tokens tokens).names) :
    ∃ texts, tokens.mapM (tokenText? params) = some texts ∧ texts.flatten = text := by
  induction captures with
  | nil => exact ⟨[], rfl, rfl⟩
  | @literal _ _ part _ _ ih =>
      obtain ⟨texts, written, same⟩ := ih closed binds
      exact ⟨part :: texts, mapM_cons_eq_some.2 ⟨part, texts, rfl, written, rfl⟩, by simp [same]⟩
  | @parameter slot tokens name constraint value _ bound _ _ _ ih =>
      have split : Binds params values slot ([name] ++ (PatternSegment.tokens tokens).names) :=
        binds
      obtain ⟨here, later⟩ := split.append
      obtain ⟨texts, written, same⟩ := ih closed later
      have text : tokenText? params (.parameter name constraint) = some value := by
        rw [tokenText?, here 0 name rfl, Nat.add_zero, bound]
        simp
      exact ⟨_ :: texts, mapM_cons_eq_some.2 ⟨_, texts, text, written, rfl⟩, by simp [same]⟩
  | star | anyChar => exact absurd closed (by simp [PatternToken.isWildcard])

theorem makes_of_captures (closed : segment.isWildcard = false)
    (captures : SegmentCaptures values slot segment text)
    (binds : Binds params values slot segment.names) : Makes params segment text := by
  cases captures with
  | tokens captures =>
      obtain ⟨texts, written, rfl⟩ := tokenTexts_of_captures closed captures binds
      exact .tokens written
  | any => exact absurd closed (by simp [PatternSegment.isWildcard])
  | @bound name value captured _ =>
      have bound : params.get? (String.ofList name) = some (String.ofList value) := by
        rw [binds 0 name rfl, Nat.add_zero, captured, Option.map_some]
      simpa using Makes.bound bound
  | @unbound name captured =>
      refine .unbound ?_
      rw [binds 0 name rfl, Nat.add_zero, captured, Option.map_none]

/-- What segments have captured they made one after the other. -/
theorem makes_of_segmentsCapture (closed : segments.any PatternSegment.isWildcard = false)
    (captures : SegmentsCapture values slot segments text)
    (binds : Binds params values slot (Pattern.names segments)) :
    ∃ texts, List.Forall₂ (Makes params) segments texts ∧ texts.flatten = text := by
  induction captures with
  | nil => exact ⟨[], .nil, rfl⟩
  | @cons _ segment segments text _ first _ ih =>
      rw [List.any_cons, Bool.or_eq_false_iff] at closed
      obtain ⟨here, later⟩ := Binds.append binds
      obtain ⟨texts, made, rfl⟩ := ih closed.2 later
      exact ⟨text :: texts, .cons (makes_of_captures closed.1 first here) made, rfl⟩

/-- Whether the rests of a path in segments have values with a property. -/
def RestsHave (P : String → Prop) (params : Dictionary) (segments : List PatternSegment) : Prop :=
  ∀ name, .captureRest name ∈ segments →
    ∃ value, params.get? (String.ofList name) = some value ∧ P value

/-- Whether a rest is written as it was read, behind one slash. -/
def IsTidy (value : String) : Prop :=
  value ≠ "" ∧ value.toList.head? ≠ some '/'

variable {P : String → Prop} {texts : List (List Char)}

theorem restsHave_cons : RestsHave P params (segment :: segments) ↔
    RestsHave P params [segment] ∧ RestsHave P params segments := by
  simp [RestsHave, or_imp, forall_and]

theorem restsHave_captureRest {name : List Char} : RestsHave P params [.captureRest name] ↔
    ∃ value, params.get? (String.ofList name) = some value ∧ P value := by
  simp [RestsHave]

theorem restsHave_tokens {tokens : List PatternToken} : RestsHave P params [.tokens tokens] := by
  simp [RestsHave]

/-- The text that is written for a rest of a path is the one that was read, if the rest is tidy. -/
theorem restText_eq_iff (value : String) :
    (if value = "" then [] else '/' :: value.toList.dropWhile (· == '/')) = '/' :: value.toList ↔
      IsTidy value := by
  by_cases empty : value = ""
  · simp [IsTidy, empty]
  · rw [if_neg empty, List.cons.injEq, IsTidy]
    cases value.toList with
    | nil => simp [empty]
    | cons c cs =>
        by_cases slash : c = '/'
        · subst slash
          have shorter := (List.dropWhile_suffix (l := cs) (· == '/')).length_le
          have changed : cs.dropWhile (· == '/') ≠ '/' :: cs := fun same =>
            absurd (congrArg List.length same) (Nat.ne_of_lt (Nat.lt_succ_of_le shorter))
          simp [changed]
        · simp [slash, empty]

theorem segmentText?_captureRest {name : List Char} {value : String}
    (bound : params.get? (String.ofList name) = some value) :
    segmentText? params (.captureRest name) =
      some (if value = "" then [] else '/' :: value.toList.dropWhile (· == '/')) := by
  simp [segmentText?, bound, String.isEmpty_iff]

namespace Makes

/-- What is written for a segment is nothing or begins with a slash, and is at most as long as what
the segment made. -/
theorem of_segmentText? {written : List Char} (makes : Makes params segment text)
    (wrote : segmentText? params segment = some written) :
    written.length ≤ text.length ∧ (written = [] ∨ written.head? = some '/') := by
  cases makes with
  | tokens made =>
      obtain rfl : _ = written := by simpa [segmentText?, made] using wrote
      exact ⟨Nat.le_refl _, .inr rfl⟩
  | @bound _ value bound =>
      rw [segmentText?_captureRest bound, Option.some.injEq] at wrote
      subst wrote
      split
      · exact ⟨Nat.zero_le _, .inl rfl⟩
      · exact ⟨Nat.succ_le_succ (List.dropWhile_suffix _).length_le, .inr rfl⟩
  | unbound unbound => simp [segmentText?, unbound] at wrote

/-- A segment is written if it has a value where it needs one. -/
theorem segmentText?_isSome_iff (makes : Makes params segment text) :
    (segmentText? params segment).isSome ↔ RestsHave (fun _ => True) params [segment] := by
  cases makes with
  | tokens made => simp [segmentText?, made, restsHave_tokens]
  | bound bound => simp [segmentText?, bound, restsHave_captureRest]
  | unbound unbound => simp [segmentText?, unbound, restsHave_captureRest]

/-- A segment is written as it was read if the rest of a path is. -/
theorem segmentText?_eq_iff (makes : Makes params segment text) :
    segmentText? params segment = some text ↔ RestsHave IsTidy params [segment] := by
  cases makes with
  | tokens made => simp [segmentText?, made, restsHave_tokens]
  | @bound _ value bound =>
      rw [segmentText?_captureRest bound, Option.some.injEq, restText_eq_iff,
        restsHave_captureRest]
      simp [bound]
  | unbound unbound => simp [segmentText?, unbound, restsHave_captureRest]

theorem ne_nil (makes : Makes params segment text) (bound : RestsHave P params [segment]) :
    text ≠ [] := by
  cases makes with
  | tokens | bound => exact List.cons_ne_nil _ _
  | unbound unbound => simp [restsHave_captureRest, unbound] at bound

end Makes

/-! ## The text of all segments -/

theorem segmentTexts_isSome_iff (made : List.Forall₂ (Makes params) segments texts) :
    (segments.mapM (segmentText? params)).isSome ↔ RestsHave (fun _ => True) params segments := by
  induction made with
  | nil => simp [RestsHave]
  | @cons segment _ segments _ here _ ih =>
      rw [restsHave_cons, ← here.segmentText?_isSome_iff, ← ih, List.mapM_cons]
      cases segmentText? params segment <;> cases segments.mapM (segmentText? params) <;> simp

/-- What is written for segments is nothing or begins with a slash, and is at most as long as what
the segments made. -/
theorem of_segmentTexts {written : List (List Char)}
    (made : List.Forall₂ (Makes params) segments texts)
    (wrote : segments.mapM (segmentText? params) = some written) :
    written.flatten.length ≤ texts.flatten.length ∧
      (written.flatten = [] ∨ written.flatten.head? = some '/') := by
  induction made generalizing written with
  | nil =>
      obtain rfl : [] = written := by simpa using wrote
      exact ⟨Nat.le_refl _, .inl rfl⟩
  | cons here _ ih =>
      obtain ⟨first, rest, wroteFirst, wroteRest, rfl⟩ := mapM_cons_eq_some.1 wrote
      obtain ⟨shortFirst, beginsFirst⟩ := here.of_segmentText? wroteFirst
      obtain ⟨shortRest, beginsRest⟩ := ih wroteRest
      rw [List.flatten_cons, List.flatten_cons, List.length_append, List.length_append]
      refine ⟨Nat.add_le_add shortFirst shortRest, ?_⟩
      rcases beginsFirst with rfl | slash
      · exact beginsRest
      · exact .inr (by simp [List.head?_append, slash])

/-- Segments are written as they were read if all rests of a path are. -/
theorem segmentTexts_eq_iff (made : List.Forall₂ (Makes params) segments texts) :
    (∃ written, segments.mapM (segmentText? params) = some written ∧
      written.flatten = texts.flatten) ↔ RestsHave IsTidy params segments := by
  induction made with
  | nil => simp [RestsHave]
  | @cons segment text segments texts here later ih =>
      rw [restsHave_cons, ← here.segmentText?_eq_iff, ← ih]
      constructor
      · rintro ⟨written, wrote, same⟩
        obtain ⟨first, rest, wroteFirst, wroteRest, rfl⟩ := mapM_cons_eq_some.1 wrote
        -- no part is longer than it was, so that each must be what it was
        have shortFirst := (here.of_segmentText? wroteFirst).1
        have shortRest := (of_segmentTexts later wroteRest).1
        have lengths := congrArg List.length same
        simp only [List.flatten_cons, List.length_append] at lengths same
        obtain ⟨rfl, sameRest⟩ := List.append_inj same (by omega)
        exact ⟨wroteFirst, rest, wroteRest, sameRest⟩
      · rintro ⟨wroteFirst, rest, wroteRest, sameRest⟩
        exact ⟨text :: rest, mapM_cons_eq_some.2 ⟨text, rest, wroteFirst, wroteRest, rfl⟩,
          by rw [List.flatten_cons, List.flatten_cons, sameRest]⟩

theorem flatten_ne_nil (made : List.Forall₂ (Makes params) segments texts) (some : segments ≠ [])
    (bound : RestsHave P params segments) : texts.flatten ≠ [] := by
  cases made with
  | nil => exact absurd rfl some
  | cons here => simp [here.ne_nil (restsHave_cons.1 bound).1]

/-- A path is written if all segments are, where nothing stands for the root. -/
theorem reverse?_eq_some_iff {pattern : PathPattern} {path : String} :
    pattern.reverse? params = some path ↔
      ∃ written, pattern.segments.mapM (segmentText? params) = some written ∧
        path = if written.flatten = [] then "/" else String.ofList written.flatten := by
  unfold reverse?
  cases pattern.segments.mapM (segmentText? params) with
  | none => simp
  | some written =>
      simp only [Option.bind_eq_bind, Option.bind_some, Option.some.injEq, exists_eq_left']
      cases whole : written.flatten with
      | nil => simp [eq_comm]
      | cons c cs => simp [eq_comm]

section

variable {pattern : PathPattern} {path : String}

/-- The root is written again from whatever values the rests of a path have. -/
theorem reverse?_root_iff (made : List.Forall₂ (Makes params) pattern.segments texts)
    (root : texts.flatten = ['/']) :
    pattern.reverse? params = some "/" ↔ RestsHave (fun _ => True) params pattern.segments := by
  rw [reverse?_eq_some_iff, ← segmentTexts_isSome_iff made]
  constructor
  · rintro ⟨written, wrote, -⟩
    simp [wrote]
  · intro isWritten
    obtain ⟨written, wrote⟩ := Option.isSome_iff_exists.1 isWritten
    refine ⟨written, wrote, ?_⟩
    -- what is written is no longer than one slash, and begins with it if it is anything
    obtain ⟨short, begins⟩ := of_segmentTexts made wrote
    rw [root] at short
    rcases begins with none | slash
    · rw [if_pos none]
    · obtain ⟨rest, whole⟩ := List.head?_eq_some_iff.1 slash
      rw [whole, List.length_cons] at short
      have none : rest = [] := List.eq_nil_of_length_eq_zero (by simpa using short)
      rw [whole, none]
      rfl

/-- Any other path is written again if the rests of a path are tidy. -/
theorem reverse?_eq_iff_of_ne_root (made : List.Forall₂ (Makes params) pattern.segments texts)
    (whole : path.toList = texts.flatten) (other : path ≠ "/") :
    pattern.reverse? params = some path ↔ RestsHave IsTidy params pattern.segments := by
  rw [reverse?_eq_some_iff, ← segmentTexts_eq_iff made]
  refine exists_congr fun written => and_congr_right fun wrote => ?_
  have isWritten : (pattern.segments.mapM (segmentText? params)).isSome := by simp [wrote]
  have full := flatten_ne_nil made pattern.segments_ne_nil
    ((segmentTexts_isSome_iff made).1 isWritten)
  by_cases none : written.flatten = []
  · rw [if_pos none, none]
    exact iff_of_false other full.symm
  · rw [if_neg none, ← String.toList_inj, String.toList_ofList, whole, eq_comm]

end

/-- A pattern without constraints and wildcards whose variables have different names gives a path
back from its own match if and only if each `{*name}` has a value that is neither empty nor begins
with a slash; for the root any value will do. -/
theorem reverse?_eq_path_iff [Regex.Dialect] {pattern : PathPattern} {text path : String}
    (compiled : compile false text = .ok pattern)
    (unconstrained : pattern.segments.any PatternSegment.isConstrained = false)
    (closed : pattern.segments.any PatternSegment.isWildcard = false)
    (distinct : pattern.names.Nodup) (matched : pattern.match? path = some params) :
    pattern.reverse? params = some path ↔
      ∀ name, .captureRest name ∈ pattern.segments →
        ∃ value, params.get? (String.ofList name) = some value ∧
          (path = "/" ∨ value ≠ "" ∧ value.toList.head? ≠ some '/') := by
  obtain ⟨found, search, rfl⟩ := Option.map_eq_some_iff.1 matched
  obtain ⟨read, last, whole, unread, captures⟩ := segmentsCapture_of_search? unconstrained search
  have final : last = [] := by
    rcases unread with none | ⟨allowed, -⟩
    · exact none
    · rw [(of_compile compiled).1] at allowed
      exact absurd allowed (by simp)
  have binds : Binds (bind pattern.names found) found.captured? 0
      (Pattern.names pattern.segments) := binds_bind found distinct
  obtain ⟨texts, made, rfl⟩ := makes_of_segmentsCapture closed captures binds
  rw [final, List.append_nil] at whole
  by_cases root : path = "/"
  · subst root
    rw [reverse?_root_iff made whole.symm]
    simp [RestsHave]
  · rw [reverse?_eq_iff_of_ne_root made whole root]
    simp [RestsHave, IsTidy, root]

/-- A variable with a suffix takes what is behind the first of two dots as well, and a rest may have
two slashes inside. -/
theorem reverse?_of_tidy_rest :
    ∃ pattern ∈ (compile false "/files/{name}.{suffix}/{*rest}").toOption,
      ∃ params ∈ pattern.match? "/files/a.b.c/d//e",
        pattern.segments.any PatternSegment.isConstrained = false ∧
          pattern.segments.any PatternSegment.isWildcard = false ∧ pattern.names.Nodup ∧
          params.get? "name" = some "a.b" ∧ params.get? "rest" = some "d//e" ∧
          pattern.reverse? params = some "/files/a.b.c/d//e" := by
  have found : ∃ pattern ∈ (compile false "/files/{name}.{suffix}/{*rest}").toOption,
      ∃ params ∈ pattern.match? "/files/a.b.c/d//e",
        pattern.segments.any PatternSegment.isConstrained = false ∧
          pattern.segments.any PatternSegment.isWildcard = false ∧ pattern.names.Nodup ∧
          params.get? "name" = some "a.b" ∧ params.get? "rest" = some "d//e" ∧
          ∀ segment ∈ pattern.segments, ∀ name ∈ segment.names,
            segment = .captureRest name → name = ['r', 'e', 's', 't'] := by
    decide +kernel
  obtain ⟨pattern, member, params, matched, unconstrained, closed, distinct, name, rest, only⟩ :=
    found
  refine ⟨pattern, member, params, matched, unconstrained, closed, distinct, name, rest, ?_⟩
  rw [reverse?_eq_path_iff (mem_toOption_compile.1 member) unconstrained closed distinct matched]
  intro other isRest
  obtain rfl := only _ isRest other List.mem_cons_self rfl
  exact ⟨"d//e", rest, .inr (by decide)⟩

/-- A rest that takes no part in the match, is empty or begins with a slash is not written as it was
read. -/
theorem reverse?_of_untidy_rest :
    ∃ pattern ∈ (compile false "/files/{*path}").toOption,
      pattern.segments.any PatternSegment.isConstrained = false ∧
        pattern.segments.any PatternSegment.isWildcard = false ∧ pattern.names.Nodup ∧
        (∃ params ∈ pattern.match? "/files", pattern.reverse? params = none) ∧
        (∃ params ∈ pattern.match? "/files/", pattern.reverse? params = some "/files") ∧
        ∃ params ∈ pattern.match? "/files//a", pattern.reverse? params = some "/files/a" := by
  decide +kernel

end PathPattern
end RequestRouting
