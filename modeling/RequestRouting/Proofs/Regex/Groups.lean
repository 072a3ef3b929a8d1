import RequestRouting.Proofs.Regex.Search

/-!
# What the groups of an expression hold

Reading an expression moves forward in a text and marks no groups but those of the expression.
Both follow from what single steps do (`Carries.of_reads`). The text of a group is therefore what
its body has read (`captured?_of_reads_capture`), and stays so as long as only other groups take
part in the match (`Marks.captured?_eq`).
-/

namespace RequestRouting
namespace Regex

/-- The groups of an expression. -/
def groups : Regex → List Nat
  | empty | char _ | .check _ => []
  | seq first second | alt first second => first.groups ++ second.groups
  | times body _ _ _ => body.groups
  | capture group body => group :: body.groups

@[simp] theorem groups_literal (text : List Char) : (literal text).groups = [] := by
  unfold literal
  induction text with
  | nil => rfl
  | cons c text ih =>
      cases text with
      | nil => rfl
      | cons next text => exact ih

variable {P : Nat → Prop} {R : Progress → Progress → Prop} {p m q : Progress}

/-! ## Step by step -/

/-- A relation that holds along every way on which characters are taken and groups with `P` are
marked. -/
structure Carries (P : Nat → Prop) (R : Progress → Progress → Prop) : Prop where
  refl : ∀ p, R p p
  trans : ∀ {p m q}, R p m → R m q → R p q
  takes : ∀ {p q set}, p.Takes set q → R p q
  mark : ∀ p {group}, P group → ∀ isEnd, R p (p.mark group isEnd)

namespace Carries

theorem of_repeats {S : Progress → Progress → Prop} {count : Nat} (carries : Carries P R)
    (once : ∀ {p q}, S p q → R p q) (repeats : Repeats S count p q) : R p q := by
  induction count generalizing p with
  | zero =>
      obtain rfl : p = q := repeats
      exact carries.refl p
  | succ count ih =>
      obtain ⟨m, first, others⟩ := repeats
      exact carries.trans (once first) (ih others)

/-- What single steps keep is kept by reading an expression. -/
theorem of_reads {r : Regex} (carries : Carries P R) (own : ∀ group ∈ r.groups, P group)
    (reads : r.Reads p q) : R p q := by
  induction r generalizing p q with
  | empty =>
      obtain rfl : p = q := reads
      exact carries.refl p
  | char set => exact carries.takes reads
  | check assertion =>
      obtain ⟨-, rfl⟩ := reads
      exact carries.refl p
  | seq first second ihFirst ihSecond =>
      obtain ⟨ownFirst, ownSecond⟩ := List.forall_mem_append.1 own
      obtain ⟨m, read, read'⟩ := reads
      exact carries.trans (ihFirst ownFirst read) (ihSecond ownSecond read')
  | alt first second ihFirst ihSecond =>
      obtain ⟨ownFirst, ownSecond⟩ := List.forall_mem_append.1 own
      rcases reads with read | read
      · exact ihFirst ownFirst read
      · exact ihSecond ownSecond read
  | times body least most greedy ih =>
      obtain ⟨count, -, -, repeats⟩ := reads
      exact carries.of_repeats (ih own) repeats
  | capture group body ih =>
      obtain ⟨here, ownBody⟩ := List.forall_mem_cons.1 own
      obtain ⟨m, read, rfl⟩ := reads
      exact carries.trans (carries.mark p here false)
        (carries.trans (ih ownBody read) (carries.mark m here true))

theorem of_readsAll {rs : List Regex} (carries : Carries P R)
    (own : ∀ r ∈ rs, ∀ group ∈ r.groups, P group) (reads : ReadsAll rs p q) : R p q := by
  induction rs generalizing p with
  | nil =>
      obtain rfl : p = q := reads
      exact carries.refl p
  | cons r rs ih =>
      obtain ⟨here, later⟩ := List.forall_mem_cons.1 own
      obtain ⟨m, first, others⟩ := reads
      exact carries.trans (carries.of_reads here first) (ih later others)

end Carries

/-- Whether a match has come to a place of this text, at the position where the place stands. -/
def StandsIn (whole : List Char) (p : Progress) : Prop :=
  ∃ before, whole = before ++ p.place.rest ∧ p.place.position = before.length

theorem carries_standsIn (whole : List Char) :
    Carries (fun _ => True) fun p q => StandsIn whole p → StandsIn whole q where
  refl _ stands := stands
  trans first second stands := second (first stands)
  takes := by
    rintro p q set ⟨c, rest, here, -, rfl⟩ ⟨before, split, position⟩
    exact ⟨before ++ [c], by simp [split, here], by simp [position]⟩
  mark _ _ _ _ stands := stands

/-- Whether the marks of `q` are those of `p` and newer marks of groups with `P`. -/
def Marks (P : Nat → Prop) (p q : Progress) : Prop :=
  ∃ newer, q.marks = newer ++ p.marks ∧ ∀ mark ∈ newer, P mark.group

theorem carries_marks (P : Nat → Prop) : Carries P (Marks P) where
  refl p := ⟨[], rfl, by simp⟩
  trans := by
    rintro p m q ⟨newer, first, own⟩ ⟨newest, second, own'⟩
    exact ⟨newest ++ newer, by rw [second, first, List.append_assoc],
      List.forall_mem_append.2 ⟨own', own⟩⟩
  takes := by
    rintro p q set ⟨c, rest, -, -, rfl⟩
    exact ⟨[], rfl, by simp⟩
  mark p group own isEnd := ⟨[_], rfl, by simpa using own⟩

/-- Expressions without groups mark nothing. -/
theorem marks_eq_of_readsAll {rs : List Regex} (groupless : ∀ r ∈ rs, r.groups = [])
    (reads : ReadsAll rs p q) : q.marks = p.marks := by
  have none : ∀ r ∈ rs, ∀ group ∈ r.groups, False := fun r member group own =>
    absurd (groupless r member ▸ own) List.not_mem_nil
  obtain ⟨newer, same, own⟩ := (carries_marks fun _ => False).of_readsAll none reads
  rw [same, List.eq_nil_iff_forall_not_mem.2 own, List.nil_append]

theorem Marks.forall_group (marks : Marks P p q) (before : ∀ mark ∈ p.marks, P mark.group) :
    ∀ mark ∈ q.marks, P mark.group := by
  obtain ⟨newer, same, own⟩ := marks
  rw [same]
  exact List.forall_mem_append.2 ⟨own, before⟩

theorem StandsIn.of_reads {whole : List Char} {r : Regex} (stands : StandsIn whole p)
    (reads : r.Reads p q) : StandsIn whole q :=
  (carries_standsIn whole).of_reads (fun _ _ => trivial) reads stands

theorem StandsIn.of_readsAll {whole : List Char} {rs : List Regex} (stands : StandsIn whole p)
    (reads : ReadsAll rs p q) : StandsIn whole q :=
  (carries_standsIn whole).of_readsAll (fun _ _ _ _ => trivial) reads stands

/-! ## The text of a group -/

/-- A group without marks has no text. -/
theorem captured?_eq_none {whole : List Char} {marks : List Mark} {group : Nat}
    (unmarked : ∀ mark ∈ marks, mark.group ≠ group) :
    Match.captured? ⟨whole, marks⟩ group = none := by
  have none : marks.find? (fun mark => mark.group == group && mark.isEnd) = none := by
    simpa using fun mark member same => absurd same (unmarked mark member)
  simp [Match.captured?, none]

theorem find?_newer {newer marks : List Mark} {group : Nat} {side : Mark → Bool}
    (others : ∀ mark ∈ newer, mark.group ≠ group) :
    (newer ++ marks).find? (fun mark => mark.group == group && side mark) =
      marks.find? fun mark => mark.group == group && side mark := by
  have none : newer.find? (fun mark => mark.group == group && side mark) = none := by
    simpa using fun mark member same => absurd same (others mark member)
  rw [List.find?_append, none, Option.none_or]

/-- The text of a group stays the same while other groups are marked. -/
theorem Marks.captured?_eq {group : Nat} (marks : Marks P p q) (other : ¬ P group)
    (whole : List Char) :
    Match.captured? ⟨whole, q.marks⟩ group = Match.captured? ⟨whole, p.marks⟩ group := by
  obtain ⟨newer, same, own⟩ := marks
  have others : ∀ mark ∈ newer, mark.group ≠ group :=
    fun mark member isGroup => other (isGroup ▸ own mark member)
  simp only [Match.captured?, same, find?_newer others]

/-- The text of a group is what the body of the group has read. -/
theorem captured?_of_reads_capture {whole value : List Char} {group : Nat} {body : Regex}
    (stands : StandsIn whole p) (alone : group ∉ body.groups)
    (reads : (capture group body).Reads p q) (span : Spans p value q) :
    Match.captured? ⟨whole, q.marks⟩ group = some value := by
  obtain ⟨before, split, position⟩ := stands
  obtain ⟨before', split', position'⟩ := StandsIn.of_reads ⟨before, split, position⟩ reads
  obtain ⟨m, read, rfl⟩ := reads
  obtain ⟨newer, marks, own⟩ :=
    (carries_marks (· ∈ body.groups)).of_reads (fun _ member => member) read
  have others : ∀ mark ∈ newer, mark.group ≠ group :=
    fun mark member same => alone (same ▸ own mark member)
  have ends : before' = before ++ value := by
    rw [split, span, ← List.append_assoc] at split'
    exact (List.append_cancel_right split').symm
  have position' : m.place.position = before.length + value.length := by
    rw [← List.length_append, ← ends]
    exact position'
  have text : p.place.rest = value ++ m.place.rest := span
  simp only [Match.captured?, Progress.mark, marks, List.find?_cons, find?_newer others]
  simp [position, position', split, text]

end Regex
end RequestRouting
