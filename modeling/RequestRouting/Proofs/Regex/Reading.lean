import RequestRouting.Regex.Search

/-!
# What an expression reads

`Regex.Reads` says what an expression reads of a text between two places, and which marks it sets,
without regard to the priorities of its ways. For the forms that path patterns are compiled to
there is one lemma each that says what text this is.
-/

namespace RequestRouting
namespace Regex

/-- How far a match has come: its place in the text, and the marks of groups, latest first. -/
structure Progress where
  place : Place
  marks : List Mark

namespace Progress

/-- Marks the beginning or end of a group. -/
def mark (p : Progress) (group : Nat) (isEnd : Bool) : Progress :=
  { p with marks := ⟨group, isEnd, p.place.position⟩ :: p.marks }

/-- Whether `q` is one character of a set further than `p`. -/
def Takes (p : Progress) (set : CharSet) (q : Progress) : Prop :=
  ∃ c rest, p.place.rest = c :: rest ∧ set.contains c = true ∧
    q = ⟨⟨p.place.position + 1, some c, rest⟩, p.marks⟩

end Progress

/-- A relation a number of times in a row. -/
def Repeats (R : Progress → Progress → Prop) : Nat → Progress → Progress → Prop
  | 0, p, q => p = q
  | count + 1, p, q => ∃ m, R p m ∧ Repeats R count m q

/-- Whether an expression reads what stands between two places, and sets the marks between. -/
def Reads : Regex → Progress → Progress → Prop
  | empty => fun p q => p = q
  | char set => fun p q => p.Takes set q
  | .check assertion => fun p q =>
    assertion.holds p.place.previous p.place.rest = true ∧ p = q
  | seq first second => fun p q => ∃ m, first.Reads p m ∧ second.Reads m q
  | alt first second => fun p q => first.Reads p q ∨ second.Reads p q
  | times body least most _ => fun p q =>
    ∃ count, least ≤ count ∧ (∀ bound ∈ most, count ≤ max least bound) ∧
      Repeats body.Reads count p q
  | capture group body => fun p q =>
    ∃ m, body.Reads (p.mark group false) m ∧ q = m.mark group true

theorem repeats_append {R : Progress → Progress → Prop} {count more : Nat} {p m q : Progress}
    (first : Repeats R count p m) (second : Repeats R more m q) : Repeats R (count + more) p q := by
  induction count generalizing p with
  | zero =>
      obtain rfl : p = m := first
      rwa [Nat.zero_add]
  | succ count ih =>
      obtain ⟨m', once, others⟩ := first
      rw [Nat.succ_add]
      exact ⟨m', once, ih others⟩

/-- Whether expressions read what stands between two places one after the other. -/
def ReadsAll : List Regex → Progress → Progress → Prop
  | [] => fun p q => p = q
  | r :: rs => fun p q => ∃ m, r.Reads p m ∧ ReadsAll rs m q

variable {p q : Progress}

theorem reads_ofItems {rs : List Regex} : (ofItems rs).Reads p q ↔ ReadsAll rs p q := by
  induction rs generalizing p with
  | nil => exact Iff.rfl
  | cons r rs ih =>
      cases rs with
      | nil => simp [ofItems, ReadsAll]
      | cons next rs => exact exists_congr fun m => and_congr_right fun _ => ih

theorem readsAll_append {rs others : List Regex} :
    ReadsAll (rs ++ others) p q ↔ ∃ m, ReadsAll rs p m ∧ ReadsAll others m q := by
  induction rs generalizing p with
  | nil => simp [ReadsAll]
  | cons r rs ih =>
      constructor
      · rintro ⟨m, first, rest⟩
        obtain ⟨m', others, last⟩ := ih.1 rest
        exact ⟨m', ⟨m, first, others⟩, last⟩
      · rintro ⟨m', ⟨m, first, others⟩, last⟩
        exact ⟨m, first, ih.2 ⟨m', others, last⟩⟩

/-! ## Forms -/

/-- The text between two places, the second of which is not before the first. -/
def Spans (p : Progress) (text : List Char) (q : Progress) : Prop :=
  p.place.rest = text ++ q.place.rest

theorem Spans.nil (p : Progress) : Spans p [] p := rfl

theorem Spans.append {m : Progress} {text more : List Char} (first : Spans p text m)
    (second : Spans m more q) : Spans p (text ++ more) q := by
  unfold Spans at *
  rw [first, second, List.append_assoc]

theorem spans_of_takes {set : CharSet} (takes : p.Takes set q) :
    ∃ c, set.contains c = true ∧ Spans p [c] q := by
  obtain ⟨c, rest, here, contains, rfl⟩ := takes
  exact ⟨c, contains, here⟩

theorem spans_of_reads_literal {text : List Char} (reads : (literal text).Reads p q) :
    Spans p text q := by
  rw [literal, reads_ofItems] at reads
  induction text generalizing p with
  | nil =>
      obtain rfl : p = q := reads
      exact .nil p
  | cons c text ih =>
      obtain ⟨m, takes, rest⟩ := reads
      obtain ⟨d, contains, span⟩ := spans_of_takes takes
      rw [CharSet.contains_single, decide_eq_true_eq] at contains
      subst contains
      exact span.append (ih rest)

theorem spans_of_repeats_char {set : CharSet} {count : Nat}
    (repeats : Repeats (char set).Reads count p q) :
    ∃ text, text.length = count ∧ (∀ c ∈ text, set.contains c = true) ∧ Spans p text q := by
  induction count generalizing p with
  | zero =>
      obtain rfl : p = q := repeats
      exact ⟨[], rfl, by simp, .nil p⟩
  | succ count ih =>
      obtain ⟨m, takes, others⟩ := repeats
      obtain ⟨c, contains, span⟩ := spans_of_takes takes
      obtain ⟨text, length, all, rest⟩ := ih others
      refine ⟨c :: text, by simp [length], ?_, span.append rest⟩
      intro d member
      rcases List.mem_cons.1 member with rfl | member
      · exact contains
      · exact all d member

theorem spans_of_reads_star {set : CharSet} (reads : (char set).star.Reads p q) :
    ∃ text, (∀ c ∈ text, set.contains c = true) ∧ Spans p text q := by
  obtain ⟨count, -, -, repeats⟩ := reads
  obtain ⟨text, -, all, span⟩ := spans_of_repeats_char repeats
  exact ⟨text, all, span⟩

theorem spans_of_reads_plus {set : CharSet} (reads : (char set).plus.Reads p q) :
    ∃ text, text ≠ [] ∧ (∀ c ∈ text, set.contains c = true) ∧ Spans p text q := by
  obtain ⟨count, least, -, repeats⟩ := reads
  obtain ⟨text, length, all, span⟩ := spans_of_repeats_char repeats
  refine ⟨text, ?_, all, span⟩
  rintro rfl
  simp only [List.length_nil] at length
  omega

theorem reads_optional {r : Regex} (reads : r.optional.Reads p q) : p = q ∨ r.Reads p q := by
  obtain ⟨count, -, most, repeats⟩ := reads
  have bound : count ≤ max 0 1 := most 1 rfl
  match count, repeats with
  | 0, same => exact .inl same
  | 1, ⟨m, once, same⟩ =>
      obtain rfl : m = q := same
      exact .inr once
  | count + 2, _ => omega

/-- A group reads what its body reads. -/
theorem spans_of_reads_capture {group : Nat} {body : Regex} {Q : List Char → Prop}
    (ofBody : ∀ p q, body.Reads p q → ∃ text, Q text ∧ Spans p text q)
    (reads : (capture group body).Reads p q) : ∃ text, Q text ∧ Spans p text q := by
  obtain ⟨m, read, rfl⟩ := reads
  obtain ⟨text, holds, span⟩ := ofBody _ m read
  exact ⟨text, holds, span⟩

end Regex
end RequestRouting
