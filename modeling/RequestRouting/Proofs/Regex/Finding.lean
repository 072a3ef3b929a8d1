import RequestRouting.Proofs.Regex.Passage
import RequestRouting.Proofs.Regex.Search

/-!
# What can be read is found

The search follows each instruction once at a place. What it has followed is closed under the
steps of the program (`Closed`), up to the ways that are still to be followed. When none are left,
an instruction that leads to the end of the program leads to a way behind the next character, so
that nothing that can be read gets lost (`search?_isSome_iff`).
-/

namespace RequestRouting
namespace Regex

variable {program : Array Instruction} {place : Place} {p q : Progress} {next : Nat}

/-- Whether a way leads from an instruction at a place to the end of a program. -/
def Succeeds (program : Array Instruction) (next : Nat) (place : Place) : Prop :=
  ∃ marks final, Comes program next ⟨place, marks⟩ final

/-! ## Following ways -/

/-- To where an instruction leads, one of its ways goes on. -/
theorem step_of_leads (thread : Thread) {instruction : Instruction}
    (leads : instruction.Leads p next q) :
    match thread.step p.place instruction with
    | .goOn ways => q.place = p.place ∧ ∃ way ∈ ways, way.next = next
    | .taken way => p.place.next? = some q.place ∧ way.next = next
    | .accepted => False := by
  cases instruction with
  | take set after =>
      obtain ⟨rfl, c, rest, here, contains, rfl⟩ := leads
      simp [Thread.step, Place.next?, here, contains]
  | check assertion after =>
      obtain ⟨rfl, holds, rfl⟩ := leads
      simp [Thread.step, holds]
  | jump after =>
      obtain ⟨rfl, rfl⟩ := leads
      simp [Thread.step]
  | fork first second =>
      obtain ⟨rfl | rfl, rfl⟩ := leads <;> simp [Thread.step]
  | opening group after =>
      obtain ⟨rfl, rfl⟩ := leads
      simp [Thread.step, Progress.mark]
  | closing group after =>
      obtain ⟨rfl, rfl⟩ := leads
      simp [Thread.step, Progress.mark]
  | accept => exact leads.elim

/-- Whether an instruction does not have to be followed again: it was reached, or there is no such
instruction. -/
def Passed (reached : Array Bool) (next : Nat) : Prop :=
  reached.getD next true = true

/-- Whether the instructions that were reached at a place lead to such that were reached or are
still to be followed, or to a way behind the next character, and none of them is the end. -/
structure Closed (program : Array Instruction) (place : Place) (reached : Array Bool)
    (threads taken : List Thread) : Prop where
  size : reached.size = program.size
  goesOn : ∀ here : Nat, reached[here]? = some true → program[here]? ≠ some .accept
  leads : ∀ (here next : Nat) (instruction : Instruction) (p q : Progress),
    reached[here]? = some true → program[here]? = some instruction → p.place = place →
      instruction.Leads p next q →
      q.place = place ∧ (Passed reached next ∨ ∃ thread ∈ threads, thread.next = next) ∨
      place.next? = some q.place ∧ ∃ way ∈ taken, way.next = next

section

variable {reached : Array Bool} {thread : Thread} {threads taken ways : List Thread}

theorem Closed.initial (program : Array Instruction) (place : Place) (threads : List Thread) :
    Closed program place (Array.replicate program.size false) threads [] where
  size := by simp
  goesOn here isReached := by
    rw [Array.getElem?_replicate] at isReached
    split at isReached <;> simp at isReached
  leads here next instruction p q isReached := by
    rw [Array.getElem?_replicate] at isReached
    split at isReached <;> simp at isReached

/-- An instruction that was reached before needs not be followed. -/
theorem Closed.skip (closed : Closed program place reached (thread :: threads) taken)
    (passed : Passed reached thread.next) : Closed program place reached threads taken where
  size := closed.size
  goesOn := closed.goesOn
  leads here next instruction p q isReached isHere samePlace leads := by
    rcases closed.leads here next instruction p q isReached isHere samePlace leads with
      ⟨stays, way⟩ | moved
    · refine .inl ⟨stays, ?_⟩
      rcases way with before | ⟨other, member, rfl⟩
      · exact .inl before
      · rcases List.mem_cons.1 member with rfl | later
        · exact .inl passed
        · exact .inr ⟨other, later, rfl⟩
    · exact .inr moved

theorem passed_setIfInBounds (passed : Passed reached next) (here : Nat) :
    Passed (reached.setIfInBounds here true) next := by
  unfold Passed at *
  rw [Array.getD_eq_getD_getElem?] at *
  rw [Array.getElem?_setIfInBounds]
  split
  · split <;> rfl
  · exact passed

theorem passed_here (reached : Array Bool) (here : Nat) :
    Passed (reached.setIfInBounds here true) here := by
  unfold Passed
  rw [Array.getD_eq_getD_getElem?, Array.getElem?_setIfInBounds, if_pos rfl]
  split <;> rfl

/-- An instruction is followed to where it leads. -/
theorem Closed.follow {threads' taken' : List Thread}
    (closed : Closed program place reached (thread :: threads) taken)
    (inside : thread.next < program.size)
    (goesOn : program[thread.next] ≠ .accept)
    (old : ∀ other ∈ threads, other ∈ threads') (oldTaken : ∀ way ∈ taken, way ∈ taken')
    (led : ∀ p next q, p.place = place → program[thread.next].Leads p next q →
      q.place = place ∧ (∃ way ∈ threads', way.next = next) ∨
      place.next? = some q.place ∧ ∃ way ∈ taken', way.next = next) :
    Closed program place (reached.setIfInBounds thread.next true) threads' taken' where
  size := by simpa using closed.size
  goesOn here isReached := by
    by_cases same : thread.next = here
    · subst same
      rw [Array.getElem?_eq_getElem inside]
      exact fun ends => goesOn (Option.some.inj ends)
    · rw [Array.getElem?_setIfInBounds, if_neg same] at isReached
      exact closed.goesOn here isReached
  leads here next instruction p q isReached isHere samePlace leads := by
    by_cases same : thread.next = here
    · subst same
      rw [Array.getElem?_eq_getElem inside] at isHere
      obtain rfl := Option.some.inj isHere
      rcases led p next q samePlace leads with ⟨stays, way⟩ | moved
      · exact .inl ⟨stays, .inr way⟩
      · exact .inr moved
    · rw [Array.getElem?_setIfInBounds, if_neg same] at isReached
      rcases closed.leads here next instruction p q isReached isHere samePlace leads with
        ⟨stays, before | ⟨other, member, rfl⟩⟩ | ⟨moved, way, member, rfl⟩
      · exact .inl ⟨stays, .inl (passed_setIfInBounds before _)⟩
      · rcases List.mem_cons.1 member with rfl | later
        · exact .inl ⟨stays, .inl (passed_here reached _)⟩
        · exact .inl ⟨stays, .inr ⟨other, old other later, rfl⟩⟩
      · exact .inr ⟨moved, way, oldTaken way member, rfl⟩

theorem Closed.goOn (closed : Closed program place reached (thread :: threads) taken)
    (inside : thread.next < program.size)
    (stepped : thread.step place program[thread.next] = .goOn ways) :
    Closed program place (reached.setIfInBounds thread.next true) (ways ++ threads) taken := by
  have goesOn : program[thread.next] ≠ .accept := by
    intro ends
    rw [ends] at stepped
    exact Step.noConfusion stepped
  refine closed.follow inside goesOn (fun other member => List.mem_append_right _ member)
    (fun way member => member) ?_
  intro p next q samePlace leads
  have led := step_of_leads thread leads
  rw [samePlace, stepped] at led
  obtain ⟨stays, way, member, rfl⟩ := led
  exact .inl ⟨stays, way, List.mem_append_left _ member, rfl⟩

theorem Closed.take {way : Thread}
    (closed : Closed program place reached (thread :: threads) taken)
    (inside : thread.next < program.size)
    (stepped : thread.step place program[thread.next] = .taken way) :
    Closed program place (reached.setIfInBounds thread.next true) threads (way :: taken) := by
  have goesOn : program[thread.next] ≠ .accept := by
    intro ends
    rw [ends] at stepped
    exact Step.noConfusion stepped
  refine closed.follow inside goesOn (fun other member => member)
    (fun other member => List.mem_cons_of_mem _ member) ?_
  intro p next q samePlace leads
  have led := step_of_leads thread leads
  rw [samePlace, stepped] at led
  obtain ⟨moved, rfl⟩ := led
  exact .inr ⟨moved, way, List.mem_cons_self, rfl⟩

/-- The number of instructions that were not reached. -/
def unreached (reached : Array Bool) : Nat :=
  reached.count false

theorem unreached_setIfInBounds {here : Nat} (new : ¬Passed reached here) :
    unreached (reached.setIfInBounds here true) + 1 = unreached reached := by
  have inside : here < reached.size := by
    by_contra outside
    exact new (by simp [Passed, Array.getD, outside])
  have was : reached[here] = false := by
    simpa [Passed, Array.getD, inside] using new
  have some : 0 < reached.count false := Array.count_pos_iff.2 (was ▸ Array.getElem_mem inside)
  unfold unreached
  rw [Array.setIfInBounds_def, dif_pos inside, Array.count_set inside, was]
  simp
  omega

theorem length_of_goOn {instruction : Instruction}
    (goesOn : thread.step place instruction = .goOn ways) : ways.length ≤ 2 := by
  cases instruction with
  | take set after =>
      simp only [Thread.step] at goesOn
      split at goesOn
      · exact Step.noConfusion goesOn
      · obtain rfl := Step.goOn.inj goesOn
        simp
  | check assertion after =>
      obtain rfl := Step.goOn.inj goesOn
      split <;> simp
  | jump after | opening group after | closing group after | fork first second =>
      obtain rfl := Step.goOn.inj goesOn
      simp
  | accept => exact Step.noConfusion goesOn

theorem inside_of_not_passed {here : Nat} (size : reached.size = program.size)
    (new : ¬Passed reached here) : here < program.size := by
  rw [← size]
  by_contra outside
  exact new (by simp [Passed, Array.getD, outside])

theorem follow_of_passed (fuel : Nat) (passed : Passed reached thread.next) :
    Regex.follow program place (fuel + 1) reached (thread :: threads) taken =
      Regex.follow program place fuel reached threads taken := by
  rw [Regex.follow]
  exact if_pos passed

theorem follow_of_not_passed (fuel : Nat) (new : ¬Passed reached thread.next)
    (inside : thread.next < program.size) :
    Regex.follow program place (fuel + 1) reached (thread :: threads) taken =
      match thread.step place program[thread.next] with
      | .goOn ways =>
        Regex.follow program place fuel (reached.setIfInBounds thread.next true) (ways ++ threads)
          taken
      | .taken way =>
        Regex.follow program place fuel (reached.setIfInBounds thread.next true) threads
          (way :: taken)
      | .accepted => ⟨taken.reverse, some thread.marks⟩ := by
  have here : program.getD thread.next .accept = program[thread.next] := by
    simp [Array.getD, inside]
  rw [Regex.follow, ← here]
  exact if_neg new

/-- When ways were followed and the end of the program was not reached, nothing is left to be
followed. -/
theorem follow_closed {fuel : Nat} (closed : Closed program place reached threads taken)
    (enough : threads.length + 2 * unreached reached < fuel)
    (none : (Regex.follow program place fuel reached threads taken).accepted = none) :
    ∃ reached' : Array Bool, (∀ here, Passed reached here → Passed reached' here) ∧
      (∀ thread ∈ threads, Passed reached' thread.next) ∧
      Closed program place reached' []
        (Regex.follow program place fuel reached threads taken).threads := by
  induction fuel generalizing reached threads taken with
  | zero => omega
  | succ fuel ih =>
      cases threads with
      | nil =>
          refine ⟨reached, fun _ passed => passed, by simp, closed.size, closed.goesOn, ?_⟩
          intro here next instruction p q isReached isHere samePlace leads
          simpa [Regex.follow] using
            closed.leads here next instruction p q isReached isHere samePlace leads
      | cons thread threads =>
          rw [List.length_cons] at enough
          by_cases passed : Passed reached thread.next
          · rw [follow_of_passed fuel passed] at none ⊢
            obtain ⟨reached', grown, all, closed'⟩ := ih (closed.skip passed) (by omega) none
            exact ⟨reached', grown, List.forall_mem_cons.2 ⟨grown _ passed, all⟩, closed'⟩
          · have inside := inside_of_not_passed closed.size passed
            have fewer := unreached_setIfInBounds passed
            rw [follow_of_not_passed fuel passed inside] at none ⊢
            cases stepped : thread.step place program[thread.next] with
            | goOn ways =>
                rw [stepped] at none
                have few := length_of_goOn stepped
                obtain ⟨reached', grown, all, closed'⟩ := ih (closed.goOn inside stepped)
                  (by rw [List.length_append]; omega) none
                refine ⟨reached', fun here before => grown here (passed_setIfInBounds before _),
                  List.forall_mem_cons.2 ⟨grown _ (passed_here reached _), ?_⟩, closed'⟩
                exact fun other member => all other (List.mem_append_right _ member)
            | taken way =>
                rw [stepped] at none
                obtain ⟨reached', grown, all, closed'⟩ := ih (closed.take inside stepped)
                  (by omega) none
                exact ⟨reached', fun here before => grown here (passed_setIfInBounds before _),
                  List.forall_mem_cons.2 ⟨grown _ (passed_here reached _), all⟩, closed'⟩
            | accepted =>
                rw [stepped] at none
                exact absurd none (by simp)

/-- From a closed set of instructions a program comes to its end behind the next character only. -/
theorem Closed.escape (closed : Closed program place reached [] taken) {steps start : Nat}
    {final : Progress} (accepts : Accepts program steps start p final)
    (samePlace : p.place = place) (passed : Passed reached start) :
    ∃ next, place.next? = some next ∧ ∃ way ∈ taken, Succeeds program way.next next := by
  have isReached : ∀ {start instruction}, Passed reached start →
      program[start]? = some instruction → reached[start]? = some true := by
    intro start instruction passed here
    obtain ⟨inside, -⟩ := Array.getElem?_eq_some_iff.1 here
    rw [← closed.size] at inside
    simpa [Passed, Array.getD, inside] using passed
  induction accepts with
  | accept ends => exact absurd ends (closed.goesOn _ (isReached passed ends))
  | step here leads later ih =>
      rcases closed.leads _ _ _ _ _ (isReached passed here) here samePlace leads with
        ⟨stays, before | ⟨thread, member, -⟩⟩ | ⟨moved, way, member, rfl⟩
      · exact ih stays before
      · exact absurd member List.not_mem_nil
      · exact ⟨_, moved, way, member, _, _, _, later⟩

end

/-- If one of several ways leads to the end of a program, following them comes to this end, or to
a way behind the next character that leads there. -/
theorem advance_succeeds {threads : List Thread} {thread : Thread} (member : thread ∈ threads)
    (succeeds : Succeeds program thread.next place) :
    (advance program place threads).accepted.isSome ∨
      ∃ next, place.next? = some next ∧
        ∃ way ∈ (advance program place threads).threads, Succeeds program way.next next := by
  cases ended : (advance program place threads).accepted with
  | some marks => exact .inl rfl
  | none =>
      have enough : threads.length + 2 * unreached (Array.replicate program.size false) <
          threads.length + 2 * program.size + 1 := by
        simp [unreached]
      obtain ⟨reached, -, all, closed⟩ :=
        follow_closed (.initial program place threads) enough ended
      obtain ⟨marks, final, steps, accepts⟩ := succeeds
      exact .inr (closed.escape accepts rfl (all thread member))

/-! ## Sweeping over a text -/

/-- Whether a match is known, or can be found from a place on. -/
def Hopeful (program : Array Instruction) (text : List Char) (position : Nat)
    (best : Option (List Mark)) (threads : List Thread) : Prop :=
  best.isSome ∨ (∃ thread ∈ threads, Succeeds program thread.next (placeIn text position)) ∨
    ∃ start, position ≤ start ∧ start ≤ text.length ∧ Succeeds program 0 (placeIn text start)

/-- What can be found from a place on can be found at it or behind the next character. -/
theorem Hopeful.advance {text : List Char} {position : Nat} {best : Option (List Mark)}
    {threads : List Thread} (hopeful : Hopeful program text position best threads) :
    let outcome := Regex.advance program (placeIn text position)
      (if best.isSome then threads else threads ++ [⟨0, []⟩])
    (outcome.accepted.or best).isSome ∨
      (∃ next, (placeIn text position).next? = some next ∧
        ∃ way ∈ outcome.threads, Succeeds program way.next next) ∨
      ∃ start, position < start ∧ start ≤ text.length ∧
        Succeeds program 0 (placeIn text start) := by
  intro outcome
  cases known : best with
  | some marks =>
      left
      cases outcome.accepted <;> rfl
  | none =>
      have followed : ∀ thread ∈ threads ++ [⟨0, []⟩],
          Succeeds program thread.next (placeIn text position) →
          outcome.accepted.isSome ∨ ∃ next, (placeIn text position).next? = some next ∧
            ∃ way ∈ outcome.threads, Succeeds program way.next next := by
        intro thread member succeeds
        refine advance_succeeds ?_ succeeds
        rw [known]
        exact member
      rw [known] at hopeful
      rw [Option.or_none]
      rcases hopeful with some | ⟨thread, member, succeeds⟩ | ⟨start, later, within, succeeds⟩
      · exact absurd some (by simp)
      · rcases followed thread (List.mem_append_left _ member) succeeds with found | way
        · exact .inl found
        · exact .inr (.inl way)
      · rcases Nat.eq_or_lt_of_le later with rfl | later
        · rcases followed ⟨0, []⟩ (by simp) succeeds with found | way
          · exact .inl found
          · exact .inr (.inl way)
        · exact .inr (.inr ⟨start, later, within, succeeds⟩)

theorem sweep_isSome {text rest : List Char} {best : Option (List Mark)} {threads : List Thread}
    {position : Nat} {previous : Option Char}
    (here : placeIn text position = ⟨position, previous, rest⟩)
    (hopeful : Hopeful program text position best threads) :
    (sweep program best threads position previous rest).isSome := by
  induction rest generalizing best threads position previous with
  | nil =>
      have dropped : text.drop position = [] := congrArg Place.rest here
      rw [sweep, ← here]
      rcases hopeful.advance with found | ⟨next, isNext, -⟩ | ⟨start, later, within, -⟩
      · exact found
      · rw [here] at isNext
        exact absurd isNext (by simp [Place.next?])
      · have := List.drop_eq_nil_iff.1 dropped
        omega
  | cons c rest ih =>
      have next : placeIn text (position + 1) = ⟨position + 1, some c, rest⟩ :=
        next?_placeIn (congrArg Place.rest here)
      have hopes := hopeful.advance
      rw [sweep, ← here]
      generalize Regex.advance program (placeIn text position)
        (if best.isSome = true then threads else threads ++ [⟨0, []⟩]) = outcome at hopes ⊢
      dsimp only at hopes ⊢
      split
      · rename_i known
        rw [Bool.and_eq_true] at known
        exact known.1
      · refine ih next ?_
        rcases hopes with found | ⟨after, isNext, way⟩ | later
        · exact .inl found
        · rw [here] at isNext
          obtain rfl := Option.some.inj isNext
          rw [← next] at way
          exact .inr (.inl way)
        · exact .inr (.inr later)

/-- A search finds something exactly if its expression can be read somewhere. -/
theorem search?_isSome_iff {r : Regex} {text : List Char} :
    (r.search? text).isSome ↔
      ∃ start ≤ text.length, ∃ final, r.Reads ⟨placeIn text start, []⟩ final := by
  constructor
  · intro some
    obtain ⟨found, search⟩ := Option.isSome_iff_exists.1 some
    obtain ⟨-, start, within, final, reads, -⟩ := search?_reads search
    exact ⟨start, within, final, reads⟩
  · rintro ⟨start, within, final, reads⟩
    have comes : Comes r.program 0 ⟨placeIn text start, []⟩ final := comes_program_iff.2 reads
    have beginning : placeIn text 0 = ⟨0, none, text⟩ := by simp [placeIn]
    unfold search?
    rw [Option.isSome_map]
    exact sweep_isSome beginning
      (.inr (.inr ⟨start, Nat.zero_le _, within, [], final, comes⟩))

end Regex
end RequestRouting
