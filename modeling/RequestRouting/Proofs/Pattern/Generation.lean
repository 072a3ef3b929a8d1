import RequestRouting.Proofs.Pattern.Matching
import RequestRouting.Proofs.Pattern.Reversal
import RequestRouting.Regex.Standard

/-!
# A generated path is read back

With at most one variable in each segment and at most one `{*name}`, the text that segments make
determines the values they make it with (`Pattern.SegmentsCapture.agree`): what stands before the
rest of a path is found from its beginning, and what stands behind it from its end. A path that is
generated from values is therefore matched, and its match gives these values again
(`PathPattern.match?_reverse?`).
-/

namespace RequestRouting

open Regex Pattern

/-- Whether a segment is `{*name}`. -/
def PatternSegment.isRest : PatternSegment → Bool
  | captureRest _ => true
  | tokens _ | any => false

namespace Pattern

/-! ## Texts between slashes -/

theorem takeWhile_append_of_slashFree {text rest : List Char} (noSlash : '/' ∉ text)
    (begins : rest = [] ∨ rest.head? = some '/') :
    (text ++ rest).takeWhile (· != '/') = text := by
  have within : ∀ c ∈ text, (c != '/') = true :=
    fun c member => bne_iff_ne.2 fun slash => noSlash (slash ▸ member)
  rw [List.takeWhile_append_of_pos within]
  rcases begins with rfl | slash
  · exact List.append_nil text
  · obtain ⟨body, rfl⟩ := List.head?_eq_some_iff.1 slash
    exact List.append_nil text

/-- A text without slashes ends where the next slash is, or with the whole text. -/
theorem append_inj_of_slashFree {text text' rest rest' : List Char} (noSlash : '/' ∉ text)
    (noSlash' : '/' ∉ text') (begins : rest = [] ∨ rest.head? = some '/')
    (begins' : rest' = [] ∨ rest'.head? = some '/') (same : text ++ rest = text' ++ rest') :
    text = text' ∧ rest = rest' := by
  have texts : text = text' := by
    rw [← takeWhile_append_of_slashFree noSlash begins, same,
      takeWhile_append_of_slashFree noSlash' begins']
  subst texts
  exact ⟨rfl, List.append_cancel_left same⟩

theorem eq_of_suffix {rest rest' : List Char} (suffix : rest <:+ rest')
    (begins' : rest' = [] ∨ rest'.head? = some '/') (count : rest.count '/' = rest'.count '/') :
    rest = rest' := by
  obtain ⟨before, rfl⟩ := suffix
  cases before with
  | nil => rfl
  | cons c before =>
      -- the text would have begun with one more slash
      have slash : c = '/' := by simpa using begins'
      rw [slash, List.cons_append, List.count_cons_self, List.count_append] at count
      omega

/-- Of what ends a text, the number of slashes tells where it begins, if it begins with one. -/
theorem append_inj_of_count {text text' rest rest' : List Char}
    (begins : rest = [] ∨ rest.head? = some '/') (begins' : rest' = [] ∨ rest'.head? = some '/')
    (count : rest.count '/' = rest'.count '/') (same : text ++ rest = text' ++ rest') :
    text = text' ∧ rest = rest' := by
  have ends : rest = rest' := by
    rcases List.suffix_or_suffix_of_suffix (List.suffix_append text rest)
      (same ▸ List.suffix_append text' rest') with shorter | longer
    · exact eq_of_suffix shorter begins' count
    · exact (eq_of_suffix longer begins count.symm).symm
  subst ends
  exact ⟨List.append_cancel_right same, rfl⟩

/-! ## One text, one set of values -/

section

variable {values values' : Nat → Option (List Char)} {slot slot' count more : Nat}
  {text text' rest rest' : List Char} {tokens : List PatternToken} {segment : PatternSegment}
  {segments : List PatternSegment}

/-- Whether the values of `count` slots from `slot` on are the same. -/
def AgreeOn (values values' : Nat → Option (List Char)) (slot count : Nat) : Prop :=
  ∀ index < count, values' (slot + index) = values (slot + index)

theorem AgreeOn.append (first : AgreeOn values values' slot count)
    (second : AgreeOn values values' (slot + count) more) :
    AgreeOn values values' slot (count + more) := by
  intro index within
  rcases Nat.lt_or_ge index count with here | later
  · exact first index here
  · obtain ⟨index, rfl⟩ := Nat.exists_eq_add_of_le later
    rw [← Nat.add_assoc]
    exact second index (by omega)

theorem AgreeOn.single (same : values' slot = values slot) : AgreeOn values values' slot 1 := by
  intro index within
  obtain rfl : index = 0 := Nat.lt_one_iff.1 within
  exact same

/-- Tokens without variables and wildcards make one text. -/
theorem TokensCapture.text_eq (closed : tokens.any PatternToken.isWildcard = false)
    (nameless : (PatternSegment.tokens tokens).names = [])
    (captures : TokensCapture values slot tokens text)
    (captures' : TokensCapture values' slot' tokens text') : text = text' := by
  induction captures generalizing text' with
  | nil =>
      cases captures'
      rfl
  | literal _ ih =>
      cases captures' with
      | literal rest' => rw [ih closed nameless rest']
  | parameter => exact absurd nameless (by simp [PatternSegment.names, PatternToken.name?])
  | star | anyChar => exact absurd closed (by simp [PatternToken.isWildcard])

/-- The text of a segment determines the value of its only variable. -/
theorem TokensCapture.agree (closed : tokens.any PatternToken.isWildcard = false)
    (single : (PatternSegment.tokens tokens).names.length ≤ 1)
    (captures : TokensCapture values slot tokens text)
    (captures' : TokensCapture values' slot tokens text') (same : text = text') :
    AgreeOn values values' slot (PatternSegment.tokens tokens).names.length := by
  induction captures generalizing text' with
  | nil => exact fun _ within => absurd within (Nat.not_lt_zero _)
  | literal _ ih =>
      cases captures' with
      | literal rest' => exact ih closed single rest' (List.append_cancel_left same)
  | @parameter slot tokens name constraint value text bound _ _ others _ =>
      cases captures' with
      | @parameter _ _ _ _ value' text' bound' _ _ others' =>
          -- what follows the only variable is the same text, and so is what precedes it
          have nameless : (PatternSegment.tokens tokens).names = [] :=
            List.eq_nil_of_length_eq_zero (Nat.le_zero.1 (Nat.le_of_succ_le_succ single))
          have closedLater : tokens.any PatternToken.isWildcard = false := closed
          obtain rfl := others.text_eq closedLater nameless others'
          obtain rfl := List.append_cancel_right same
          have one : (PatternSegment.tokens (.parameter name constraint :: tokens)).names.length
              = 1 := congrArg Nat.succ (congrArg List.length nameless)
          rw [one]
          exact .single (bound'.trans bound.symm)
  | star | anyChar => exact absurd closed (by simp [PatternToken.isWildcard])

theorem SegmentCaptures.agree (closed : segment.isWildcard = false)
    (single : segment.names.length ≤ 1) (captures : SegmentCaptures values slot segment text)
    (captures' : SegmentCaptures values' slot segment text') (same : text = text') :
    AgreeOn values values' slot segment.names.length := by
  cases captures with
  | tokens captures =>
      cases captures' with
      | tokens captures' => exact captures.agree closed single captures' (List.cons.inj same).2
  | any => exact absurd closed (by simp [PatternSegment.isWildcard])
  | bound bound =>
      cases captures' with
      | bound bound' =>
          obtain rfl := (List.cons.inj same).2
          exact .single (bound'.trans bound.symm)
      | unbound => exact absurd same (List.cons_ne_nil _ _)
  | unbound unbound =>
      cases captures' with
      | bound => exact absurd same.symm (List.cons_ne_nil _ _)
      | unbound unbound' => exact .single (unbound'.trans unbound.symm)

/-- Segments without rests and wildcards make a text with as many slashes as there are segments. -/
theorem SegmentsCapture.count_eq (free : ∀ segment ∈ segments, IsSlashFree segment)
    (closed : segments.any PatternSegment.isWildcard = false)
    (noRest : segments.countP PatternSegment.isRest = 0)
    (captures : SegmentsCapture values slot segments text) :
    text.count '/' = segments.length := by
  induction captures with
  | nil => rfl
  | @cons _ segment segments text rest first _ ih =>
      obtain ⟨freeHere, freeLater⟩ := List.forall_mem_cons.1 free
      rw [List.any_cons, Bool.or_eq_false_iff] at closed
      rw [List.countP_cons, Nat.add_eq_zero_iff] at noRest
      cases first with
      | tokens captures =>
          have noSlash := (tokensMatch_of_captures freeHere captures).1
          rw [List.count_append, List.count_cons_self, List.count_eq_zero_of_not_mem noSlash,
            ih freeLater closed.2 noRest.1, List.length_cons, Nat.add_comm]
      | any => exact absurd closed.1 (by simp [PatternSegment.isWildcard])
      | bound | unbound => exact absurd noRest.2 (by simp [PatternSegment.isRest])

/-- What segments make is nothing or begins with a slash. -/
theorem SegmentsCapture.begins (free : ∀ segment ∈ segments, IsSlashFree segment)
    (captures : SegmentsCapture values slot segments text) :
    text = [] ∨ text.head? = some '/' := by
  rcases isPathFor_of_captures free captures with ⟨none, -⟩ | ⟨body, rfl, -⟩
  · exact .inl none
  · exact .inr rfl

/-- Where the text of the first segment ends is determined by the whole text, if there is at most
one rest. -/
theorem SegmentsCapture.cons_inj (free : ∀ part ∈ segment :: segments, IsSlashFree part)
    (closed : (segment :: segments).any PatternSegment.isWildcard = false)
    (oneRest : (segment :: segments).countP PatternSegment.isRest ≤ 1)
    (first : SegmentCaptures values slot segment text)
    (first' : SegmentCaptures values' slot segment text')
    (others : SegmentsCapture values more segments rest)
    (others' : SegmentsCapture values' more segments rest') (same : text ++ rest = text' ++ rest') :
    text = text' ∧ rest = rest' := by
  obtain ⟨freeHere, freeLater⟩ := List.forall_mem_cons.1 free
  rw [List.any_cons, Bool.or_eq_false_iff] at closed
  have begins := others.begins freeLater
  have begins' := others'.begins freeLater
  cases segment with
  | tokens tokens =>
      obtain @⟨_, body, captures⟩ := first
      obtain @⟨_, body', captures'⟩ := first'
      have noSlash := (tokensMatch_of_captures freeHere captures).1
      have noSlash' := (tokensMatch_of_captures freeHere captures').1
      obtain ⟨rfl, ends⟩ :=
        append_inj_of_slashFree noSlash noSlash' begins begins' (List.cons.inj same).2
      exact ⟨rfl, ends⟩
  | any => exact absurd closed.1 (by simp [PatternSegment.isWildcard])
  | captureRest name =>
      -- no other rest follows, so that the slashes behind this one are counted
      have noRest : segments.countP PatternSegment.isRest = 0 := by
        rw [List.countP_cons_of_pos rfl] at oneRest
        omega
      refine append_inj_of_count begins begins' ?_ same
      rw [others.count_eq freeLater closed.2 noRest, others'.count_eq freeLater closed.2 noRest]

/-- The text of segments with at most one variable each and at most one rest determines the values
of their variables. -/
theorem SegmentsCapture.agree (free : ∀ segment ∈ segments, IsSlashFree segment)
    (closed : segments.any PatternSegment.isWildcard = false)
    (single : ∀ segment ∈ segments, segment.names.length ≤ 1)
    (oneRest : segments.countP PatternSegment.isRest ≤ 1)
    (captures : SegmentsCapture values slot segments text)
    (captures' : SegmentsCapture values' slot segments text') (same : text = text') :
    AgreeOn values values' slot (names segments).length := by
  induction captures generalizing text' with
  | nil => exact fun _ within => absurd within (Nat.not_lt_zero _)
  | @cons slot segment segments text rest first others ih =>
      cases captures' with
      | @cons _ _ _ text' rest' first' others' =>
          obtain ⟨sameFirst, sameRest⟩ :=
            cons_inj free closed oneRest first first' others others' same
          obtain ⟨-, freeLater⟩ := List.forall_mem_cons.1 free
          obtain ⟨singleHere, singleLater⟩ := List.forall_mem_cons.1 single
          rw [List.any_cons, Bool.or_eq_false_iff] at closed
          have fewerRests : segments.countP PatternSegment.isRest ≤ 1 :=
            Nat.le_trans (List.sublist_cons_self segment segments).countP_le oneRest
          have here := first.agree closed.1 singleHere first' sameFirst
          have later := ih freeLater closed.2 singleLater fewerRests others' sameRest
          rw [names, List.flatMap_cons, List.length_append]
          exact here.append later

end

end Pattern

namespace PathPattern

/-! ## What is written from values -/

/-- Whether parameters have a value for each variable of a segment that can stand in its place. -/
def Fills (params : Dictionary) : PatternSegment → Prop
  | .tokens tokens => ∀ name ∈ (PatternSegment.tokens tokens).names,
      ∃ value, params.get? (String.ofList name) = some value ∧ value ≠ "" ∧ '/' ∉ value.toList
  | .captureRest name =>
      ∃ value, params.get? (String.ofList name) = some value ∧ IsTidy value ∧ '\n' ∉ value.toList
  | .any => True

instance (value : String) : Decidable (IsTidy value) :=
  inferInstanceAs (Decidable (_ ∧ _))

instance (params : Dictionary) : DecidablePred (Fills params)
  | .tokens tokens => inferInstanceAs (Decidable (∀ name ∈ (PatternSegment.tokens tokens).names,
      ∃ value ∈ params.get? (String.ofList name), value ≠ "" ∧ '/' ∉ value.toList))
  | .captureRest name => inferInstanceAs (Decidable (
      ∃ value ∈ params.get? (String.ofList name), IsTidy value ∧ '\n' ∉ value.toList))
  | .any => isTrue trivial

/-- The values of names in parameters, from slot 0 on. -/
def valuesOf (params : Dictionary) (names : List (List Char)) (slot : Nat) : Option (List Char) :=
  names[slot]?.bind fun name => (params.get? (String.ofList name)).map String.toList

section

variable {params : Dictionary} {values : Nat → Option (List Char)} {slot : Nat}
  {tokens : List PatternToken} {segment : PatternSegment} {segments : List PatternSegment}
  {names : List (List Char)} {name : List Char} {value : String}

theorem binds_valuesOf : Binds params (valuesOf params names) 0 names := by
  intro index name named
  rw [Nat.zero_add, valuesOf, named, Option.bind_some, Option.map_map]
  cases params.get? (String.ofList name) <;> simp

theorem Binds.value_eq {more : List (List Char)} (binds : Binds params values slot (name :: more))
    (bound : params.get? (String.ofList name) = some value) :
    values slot = some value.toList := by
  have same := binds 0 name rfl
  rw [bound, Nat.add_zero] at same
  obtain ⟨cs, captured, rfl⟩ := Option.map_eq_some_iff.1 same.symm
  rw [captured, String.toList_ofList]

theorem tokensCapture_of_fills (closed : tokens.any PatternToken.isWildcard = false)
    (fills : Fills params (.tokens tokens))
    (binds : Binds params values slot (PatternSegment.tokens tokens).names) :
    ∃ texts, tokens.mapM (tokenText? params) = some texts ∧
      TokensCapture values slot tokens texts.flatten := by
  induction tokens generalizing slot with
  | nil => exact ⟨[], rfl, .nil⟩
  | cons token tokens ih =>
      cases token with
      | literal part =>
          obtain ⟨texts, wrote, captures⟩ := ih closed fills binds
          exact ⟨part :: texts, mapM_cons_eq_some.2 ⟨part, texts, rfl, wrote, rfl⟩,
            .literal captures⟩
      | parameter name constraint =>
          obtain ⟨⟨value, bound, full, noSlash⟩, fillsLater⟩ := List.forall_mem_cons.1 fills
          have split : Binds params values slot
            ([name] ++ (PatternSegment.tokens tokens).names) := binds
          obtain ⟨texts, wrote, captures⟩ := ih closed fillsLater split.append.2
          have text : tokenText? params (.parameter name constraint) = some value.toList := by
            rw [tokenText?, bound, Option.map_some]
          have some : value.toList ≠ [] := fun none => full (String.toList_eq_nil_iff.1 none)
          exact ⟨_ :: texts, mapM_cons_eq_some.2 ⟨_, texts, text, wrote, rfl⟩,
            .parameter (binds.value_eq bound) some noSlash captures⟩
      | star | anyChar => exact absurd closed (by simp [PatternToken.isWildcard])

theorem segmentCaptures_of_fills (closed : segment.isWildcard = false)
    (fills : Fills params segment) (binds : Binds params values slot segment.names) :
    ∃ text, segmentText? params segment = some ('/' :: text) ∧
      SegmentCaptures values slot segment ('/' :: text) := by
  cases segment with
  | tokens tokens =>
      obtain ⟨texts, wrote, captures⟩ := tokensCapture_of_fills closed fills binds
      exact ⟨texts.flatten, by rw [segmentText?, wrote, Option.map_some], .tokens captures⟩
  | any => exact absurd closed (by simp [PatternSegment.isWildcard])
  | captureRest name =>
      obtain ⟨value, bound, tidy, line⟩ := fills
      refine ⟨value.toList, ?_, .bound (binds.value_eq bound) line⟩
      rw [segmentText?_captureRest bound, (restText_eq_iff value).2 tidy]

/-- What is written for segments from values they make with these values, and it begins with a
slash. -/
theorem segmentsCapture_of_fills (closed : segments.any PatternSegment.isWildcard = false)
    (fills : ∀ segment ∈ segments, Fills params segment)
    (binds : Binds params values slot (Pattern.names segments)) :
    ∃ texts, segments.mapM (segmentText? params) = some texts ∧
      SegmentsCapture values slot segments texts.flatten ∧
      (segments ≠ [] → texts.flatten.head? = some '/') := by
  induction segments generalizing slot with
  | nil => exact ⟨[], rfl, .nil, fun some => absurd rfl some⟩
  | cons segment segments ih =>
      rw [List.any_cons, Bool.or_eq_false_iff] at closed
      obtain ⟨fillsHere, fillsLater⟩ := List.forall_mem_cons.1 fills
      obtain ⟨here, later⟩ := Binds.append binds
      obtain ⟨text, wroteFirst, first⟩ := segmentCaptures_of_fills closed.1 fillsHere here
      obtain ⟨texts, wrote, others, -⟩ := ih closed.2 fillsLater later
      exact ⟨_ :: texts, mapM_cons_eq_some.2 ⟨_, texts, wroteFirst, wrote, rfl⟩,
        .cons first others, fun _ => rfl⟩

/-- A match with the values of the parameters gives the parameters of its names. -/
theorem get?_bind_of_agreeOn {found : Match} (distinct : (names.map String.ofList).Nodup)
    (binds : Binds params values 0 names)
    (agree : AgreeOn values found.captured? 0 names.length) (name : String) :
    (bind (names.map String.ofList) found).get? name =
      if name ∈ names.map String.ofList then params.get? name else none := by
  split
  · rename_i member
    obtain ⟨cs, listed, rfl⟩ := List.mem_map.1 member
    obtain ⟨index, within, named⟩ := List.mem_iff_getElem.1 listed
    have named : names[index]? = some cs := List.getElem?_eq_some_iff.2 ⟨within, named⟩
    rw [binds_bind found distinct index cs named, agree index within, binds index cs named]
  · rename_i absent
    refine (get?_foldl_bindSlot_of_not_mem ?_).trans (Dictionary.get?_empty name)
    rwa [List.zipIdx_map_fst]

end

/-! ## What is read from a generated path -/

/-- A pattern without constraints and wildcards, with differently named variables, at most one in a
segment and at most one for a rest, writes a path from values that can stand in their places, and
reads exactly these values from it. -/
theorem match?_reverse? [Regex.Dialect] {pattern : PathPattern} {text : String}
    {params : Dictionary}
    (compiled : compile false text = .ok pattern)
    (unconstrained : pattern.segments.any PatternSegment.isConstrained = false)
    (closed : pattern.segments.any PatternSegment.isWildcard = false)
    (distinct : pattern.names.Nodup)
    (single : ∀ segment ∈ pattern.segments, segment.names.length ≤ 1)
    (oneRest : pattern.segments.countP PatternSegment.isRest ≤ 1)
    (fills : ∀ segment ∈ pattern.segments, Fills params segment) :
    ∃ path, pattern.reverse? params = some path ∧
      ∃ bound, pattern.match? path = some bound ∧
        ∀ name, bound.get? name =
          if name ∈ pattern.names then params.get? name else none := by
  have free : ∀ segment ∈ pattern.segments, IsSlashFree segment :=
    fun _ => isSlashFree_of_mem_segments
  have binds : Binds params (valuesOf params (Pattern.names pattern.segments)) 0
    (Pattern.names pattern.segments) := binds_valuesOf
  obtain ⟨texts, wrote, captures, begins⟩ := segmentsCapture_of_fills closed fills binds
  have slash := begins pattern.segments_ne_nil
  have written : pattern.reverse? params = some (String.ofList texts.flatten) := by
    refine reverse?_eq_some_iff.2 ⟨texts, wrote, (if_neg fun none => ?_).symm⟩
    rw [none] at slash
    exact absurd slash (by simp)
  have matched : (pattern.match? (String.ofList texts.flatten)).isSome := by
    refine match?_isSome_of_distributes unconstrained ?_ ?_ <;> rw [String.toList_ofList]
    · exact slash
    · exact distributes_of_isPathFor slash (isPathFor_of_captures free captures)
  obtain ⟨bound, matched⟩ := Option.isSome_iff_exists.1 matched
  obtain ⟨found, search, rfl⟩ := Option.map_eq_some_iff.1 matched
  refine ⟨_, written, _, matched, get?_bind_of_agreeOn distinct binds ?_⟩
  -- the match makes the whole path with its own values, which can only be the same
  obtain ⟨read, last, whole, unread, captured⟩ := segmentsCapture_of_search? unconstrained search
  have final : last = [] := by
    rcases unread with none | ⟨allowed, -⟩
    · exact none
    · rw [(of_compile compiled).1] at allowed
      exact absurd allowed (by simp)
  rw [String.toList_ofList, final, List.append_nil] at whole
  exact captures.agree free closed single oneRest captured whole

/-- The value of a variable may end in the text that follows it, and a rest between two segments may
end in a slash. -/
theorem match?_reverse?_of_rest_inside :
    ∃ pattern ∈ (compile false "/files/{name}.txt/{*rest}/end").toOption,
      let params := Dictionary.ofList [("name", "a.txt"), ("rest", "x//y/"), ("more", "z")]
      pattern.segments.any PatternSegment.isConstrained = false ∧
        pattern.segments.any PatternSegment.isWildcard = false ∧ pattern.names.Nodup ∧
        (∀ segment ∈ pattern.segments, segment.names.length ≤ 1) ∧
        pattern.segments.countP PatternSegment.isRest ≤ 1 ∧
        (∀ segment ∈ pattern.segments, Fills params segment) ∧
        pattern.reverse? params = some "/files/a.txt.txt/x//y//end" ∧
        ∃ bound ∈ pattern.match? "/files/a.txt.txt/x//y//end", ∀ name, bound.get? name =
          if name ∈ pattern.names then params.get? name else none := by
  have conditions : ∃ pattern ∈ (compile false "/files/{name}.txt/{*rest}/end").toOption,
      let params := Dictionary.ofList [("name", "a.txt"), ("rest", "x//y/"), ("more", "z")]
      pattern.segments.any PatternSegment.isConstrained = false ∧
        pattern.segments.any PatternSegment.isWildcard = false ∧ pattern.names.Nodup ∧
        (∀ segment ∈ pattern.segments, segment.names.length ≤ 1) ∧
        pattern.segments.countP PatternSegment.isRest ≤ 1 ∧
        (∀ segment ∈ pattern.segments, Fills params segment) ∧
        pattern.reverse? params = some "/files/a.txt.txt/x//y//end" := by
    decide +kernel
  obtain ⟨pattern, member, unconstrained, closed, distinct, single, oneRest, fills, written⟩ :=
    conditions
  refine ⟨pattern, member, unconstrained, closed, distinct, single, oneRest, fills, written, ?_⟩
  obtain ⟨path, generated, bound, matched, values⟩ := match?_reverse?
    (mem_toOption_compile.1 member) unconstrained closed distinct single oneRest fills
  obtain rfl := Option.some.inj (generated.symm.trans written)
  exact ⟨bound, matched, values⟩

end PathPattern
end RequestRouting
