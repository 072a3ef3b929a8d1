import RequestRouting.Proofs.Pattern.Distribution
import RequestRouting.Proofs.Regex.Finding

/-!
# Which paths a pattern matches

The converse of `Pattern.Distributes`: where the tokens of a path can be distributed over the
segments of a pattern, the regular expression of the pattern can be read along the path, and what
can be read is found. A pattern without constraints therefore matches exactly the paths whose
tokens can be distributed over its segments (`PathPattern.match?_isSome_iff`).
-/

namespace RequestRouting

namespace Regex

/-- Whether a text can be read wherever it stands, whatever follows it. -/
def CanRead (R : Progress → Progress → Prop) (text : List Char) : Prop :=
  ∀ p rest, p.place.rest = text ++ rest → ∃ q, R p q ∧ q.place.rest = rest

section

variable {R S : Progress → Progress → Prop} {text more : List Char} {set : CharSet}

theorem CanRead.nil : CanRead (fun p q => p = q) [] :=
  fun p _ here => ⟨p, rfl, here⟩

theorem CanRead.append (first : CanRead R text) (second : CanRead S more) :
    CanRead (fun p q => ∃ m, R p m ∧ S m q) (text ++ more) := by
  intro p rest here
  rw [List.append_assoc] at here
  obtain ⟨m, read, there⟩ := first p _ here
  obtain ⟨q, read', ends⟩ := second m rest there
  exact ⟨q, ⟨m, read, read'⟩, ends⟩

theorem canRead_char {c : Char} (contains : set.contains c = true) :
    CanRead (char set).Reads [c] :=
  fun _ rest here => ⟨_, ⟨c, rest, here, contains, rfl⟩, rfl⟩

theorem canRead_literal (text : List Char) : CanRead (literal text).Reads text := by
  intro p rest here
  simp only [literal, reads_ofItems]
  induction text generalizing p with
  | nil => exact ⟨p, rfl, here⟩
  | cons c text ih =>
      have contains : (CharSet.single c).contains c = true := by simp [CharSet.contains_single]
      obtain ⟨m, takes, there⟩ := canRead_char contains p _ here
      obtain ⟨q, reads, ends⟩ := ih m there
      exact ⟨q, ⟨m, takes, reads⟩, ends⟩

theorem canRead_repeats (all : ∀ c ∈ text, set.contains c = true) :
    CanRead (Repeats (char set).Reads text.length) text := by
  induction text with
  | nil => exact .nil
  | cons c text ih =>
      have later := ih fun d member => all d (List.mem_cons_of_mem _ member)
      exact (canRead_char (all c List.mem_cons_self)).append later

theorem canRead_star (all : ∀ c ∈ text, set.contains c = true) :
    CanRead (char set).star.Reads text := by
  intro p rest here
  obtain ⟨q, repeats, ends⟩ := canRead_repeats all p rest here
  exact ⟨q, ⟨text.length, Nat.zero_le _, by simp, repeats⟩, ends⟩

theorem canRead_plus (some : text ≠ []) (all : ∀ c ∈ text, set.contains c = true) :
    CanRead (char set).plus.Reads text := by
  intro p rest here
  obtain ⟨q, repeats, ends⟩ := canRead_repeats all p rest here
  exact ⟨q, ⟨text.length, List.length_pos_iff.2 some, by simp, repeats⟩, ends⟩

theorem canRead_capture {body : Regex} (group : Nat) (reads : CanRead body.Reads text) :
    CanRead (capture group body).Reads text := by
  intro p rest here
  obtain ⟨m, read, ends⟩ := reads (p.mark group false) rest here
  exact ⟨m.mark group true, ⟨m, read, rfl⟩, ends⟩

theorem canRead_optional {body : Regex} (reads : text = [] ∨ CanRead body.Reads text) :
    CanRead body.optional.Reads text := by
  intro p rest here
  rcases reads with rfl | reads
  · exact ⟨p, ⟨0, Nat.zero_le _, by simp, rfl⟩, here⟩
  · obtain ⟨q, read, ends⟩ := reads p rest here
    exact ⟨q, ⟨1, Nat.zero_le _, by simp, q, read, rfl⟩, ends⟩

theorem CanRead.all {rs others : List Regex} (first : CanRead (ReadsAll rs) text)
    (second : CanRead (ReadsAll others) more) :
    CanRead (ReadsAll (rs ++ others)) (text ++ more) := by
  intro p rest here
  obtain ⟨q, reads, ends⟩ := (first.append second) p rest here
  exact ⟨q, readsAll_append.2 reads, ends⟩

end
end Regex

open Regex

namespace Pattern

/-- The expressions of tokens can read what the tokens match. -/
theorem canRead_tokens {tokens : List PatternToken} {text : List Char} (slot : Nat)
    (matched : TokensMatch tokens text) (noSlash : '/' ∉ text) :
    CanRead (ReadsAll (tokenExpressions slot tokens)) text := by
  induction tokens generalizing slot text with
  | nil =>
      obtain rfl : text = [] := matched
      exact .nil
  | cons token tokens ih =>
      cases token with
      | literal part =>
          obtain ⟨rest, rfl, matched⟩ := matched
          simp only [List.mem_append, not_or] at noSlash
          exact (canRead_literal part).append (ih slot matched noSlash.2)
      | parameter name constraint =>
          obtain ⟨value, rest, rfl, some, matched⟩ := matched
          simp only [List.mem_append, not_or] at noSlash
          have value := canRead_plus some (CharSet.forall_contains_except.2 noSlash.1)
          exact (canRead_capture slot value).append (ih (slot + 1) matched noSlash.2)
      | star =>
          obtain ⟨value, rest, rfl, matched⟩ := matched
          simp only [List.mem_append, not_or] at noSlash
          exact (canRead_star (CharSet.forall_contains_except.2 noSlash.1)).append
            (ih slot matched noSlash.2)
      | anyChar =>
          obtain ⟨c, rest, rfl, matched⟩ := matched
          have here := CharSet.forall_contains_except.2 noSlash c List.mem_cons_self
          exact (canRead_char here).append (ih slot matched (List.not_mem_of_not_mem_cons noSlash))

/-- The path of some texts, each behind a slash. -/
def joined (texts : List (List Char)) : List Char :=
  texts.flatMap ('/' :: ·)

theorem canRead_inLine {text : List Char} (noLineFeed : '\n' ∉ text) :
    CanRead inLine.star.Reads text :=
  canRead_star (CharSet.forall_contains_except.2 noLineFeed)

/-- The expression of a multi-segment wildcard can read any number of texts without line feeds. -/
theorem canRead_rest {body : Regex} {taken : List (List Char)}
    (reads : ∀ text, '\n' ∉ text → CanRead body.Reads text)
    (lines : ∀ text ∈ taken, '\n' ∉ text) :
    CanRead (Regex.seq (.literal ['/']) body).optional.Reads (joined taken) := by
  refine canRead_optional ?_
  cases taken with
  | nil => exact .inl rfl
  | cons text taken =>
      have noLineFeed : '\n' ∉ text ++ joined taken := by
        intro lineFeed
        rcases List.mem_append.1 lineFeed with here | later
        · exact lines text List.mem_cons_self here
        · obtain ⟨other, member, inside⟩ := List.mem_flatMap.1 later
          rcases List.mem_cons.1 inside with slash | inside
          · exact absurd slash (by decide)
          · exact lines other (List.mem_cons_of_mem _ member) inside
      have whole : joined (text :: taken) = ['/'] ++ (text ++ joined taken) := by
        simp [joined]
      rw [whole]
      exact .inr ((canRead_literal ['/']).append (reads _ noLineFeed))

/-- The expressions of segments can read the texts that are distributed over the segments. -/
theorem canRead_segments {segments : List PatternSegment} {texts : List (List Char)} (slot : Nat)
    (distributes : Distributes segments texts) (noSlash : ∀ text ∈ texts, '/' ∉ text) :
    CanRead (ReadsAll (segmentExpressions slot segments)) (joined texts) := by
  induction segments generalizing slot texts with
  | nil =>
      obtain rfl : texts = [] := distributes
      exact .nil
  | cons segment segments ih =>
      cases segment with
      | any =>
          obtain ⟨taken, rest, rfl, lines, distributes⟩ := distributes
          have later := ih slot distributes fun text member =>
            noSlash text (List.mem_append_right _ member)
          rw [joined, List.flatMap_append]
          exact (canRead_rest (fun _ => canRead_inLine) lines).append later
      | captureRest name =>
          obtain ⟨taken, rest, rfl, lines, distributes⟩ := distributes
          have later := ih (slot + 1) distributes fun text member =>
            noSlash text (List.mem_append_right _ member)
          rw [joined, List.flatMap_append]
          exact (canRead_rest (fun _ line => canRead_capture slot (canRead_inLine line))
            lines).append later
      | tokens tokens =>
          obtain ⟨text, rest, rfl, matched, distributes⟩ := distributes
          have here := canRead_tokens slot matched (noSlash text List.mem_cons_self)
          have later := ih (slot + (PatternSegment.tokens tokens).names.length) distributes
            fun text member => noSlash text (List.mem_cons_of_mem _ member)
          have whole : joined (text :: rest) = ['/'] ++ (text ++ joined rest) := by
            simp [joined]
          rw [whole]
          exact (canRead_literal ['/']).append (here.all later)

/-- The texts between the slashes of a path make up the path. -/
theorem joined_splitOn (cs : List Char) : joined (cs.splitOn '/') = '/' :: cs := by
  induction cs with
  | nil => simp [joined]
  | cons c cs ih =>
      obtain ⟨first, rest, split⟩ := List.exists_cons_of_ne_nil (List.splitOn_ne_nil '/' cs)
      rw [List.splitOn_cons_eq_if_modifyHead]
      rw [split] at ih ⊢
      by_cases slash : c = '/'
      · simpa [joined, slash] using ih
      · simpa [joined, slash] using ih

theorem joined_tokensOf {path : List Char} (slash : path.head? = some '/') :
    joined (tokensOf path) = path := by
  obtain ⟨body, rfl⟩ := List.head?_eq_some_iff.1 slash
  exact joined_splitOn body

end Pattern

namespace PathPattern

open Pattern

variable {pattern : PathPattern} {path : String}

/-- A pattern matches the path of texts that can be distributed over its segments, and this path
with one more slash if it allows for one. -/
theorem match?_isSome_of_joined {texts : List (List Char)} {last : List Char}
    (unconstrained : pattern.segments.any PatternSegment.isConstrained = false)
    (noSlash : ∀ text ∈ texts, '/' ∉ text) (distributes : Distributes pattern.segments texts)
    (whole : path.toList = joined texts ++ last)
    (ends : last = [] ∨
      (pattern.slashAllowed && pattern.text.toList.getLast? != some '/') = true ∧ last = ['/']) :
    (pattern.match? path).isSome := by
  rw [match?, Option.isSome_map, search?_isSome_iff, pattern.direct unconstrained]
  refine ⟨0, Nat.zero_le _, ?_⟩
  have begins : (placeIn path.toList 0).rest = joined texts ++ last := whole
  obtain ⟨q, reads, left⟩ :=
    canRead_segments 0 distributes noSlash ⟨placeIn path.toList 0, []⟩ last begins
  have atEnd : ∀ q : Progress, q.place.rest = [] → ReadsAll [.check .textEnd] q q :=
    fun q none => ⟨q, ⟨by simp [Assertion.holds, none], rfl⟩, rfl⟩
  have rest : ∃ final, ReadsAll ((if (pattern.slashAllowed &&
      pattern.text.toList.getLast? != some '/') then [Regex.optional (.literal ['/'])] else []) ++
        [.check .textEnd]) q final := by
    rcases ends with rfl | ⟨allowed, rfl⟩
    · -- one more slash may be allowed, and is not needed
      split
      · exact ⟨q, q, ⟨0, Nat.zero_le _, by simp, rfl⟩, atEnd q left⟩
      · exact ⟨q, atEnd q left⟩
    · obtain ⟨final, slash, none⟩ := canRead_optional (.inr (canRead_literal ['/'])) q [] left
      rw [if_pos allowed]
      exact ⟨final, final, slash, atEnd final none⟩
  obtain ⟨final, rest⟩ := rest
  refine ⟨final, ?_⟩
  rw [directExpression, reads_ofItems, List.append_assoc, List.cons_append]
  exact ⟨_, ⟨rfl, rfl⟩, readsAll_append.2 ⟨q, reads, rest⟩⟩

/-- A pattern matches a path whose tokens can be distributed over its segments. -/
theorem match?_isSome_of_distributes
    (unconstrained : pattern.segments.any PatternSegment.isConstrained = false)
    (slash : path.toList.head? = some '/')
    (distributes : Distributes pattern.segments (tokensOf path.toList)) :
    (pattern.match? path).isSome := by
  refine match?_isSome_of_joined unconstrained (noSlash_tokensOf path.toList) distributes ?_
    (.inl rfl)
  rw [List.append_nil]
  exact (joined_tokensOf slash).symm

/-- A pattern without constraints matches exactly the paths whose tokens can be distributed over
its segments, unless it allows for one more slash. -/
theorem match?_isSome_iff
    (unconstrained : pattern.segments.any PatternSegment.isConstrained = false)
    (exact : pattern.slashAllowed = false) (slash : path.toList.head? = some '/') :
    (pattern.match? path).isSome ↔ Distributes pattern.segments (tokensOf path.toList) :=
  ⟨distributes_of_match? unconstrained exact slash,
    match?_isSome_of_distributes unconstrained slash⟩

end PathPattern
end RequestRouting
