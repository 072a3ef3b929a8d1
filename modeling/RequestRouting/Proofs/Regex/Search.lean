import Mathlib.Data.List.Basic
import RequestRouting.Proofs.Regex.Program

/-!
# What a search finds has been read

All ways that a search follows come from the beginning of the program at some place of the text.
What is followed from a way could therefore be followed from there (`ComesFrom`), and a match
that is found has been read from one place of the text to another (`search?_reads`).
-/

namespace RequestRouting
namespace Regex

/-- The place in a text after some number of its characters. -/
def placeIn (text : List Char) (position : Nat) : Place :=
  ⟨position, (text.take position).getLast?, text.drop position⟩

/-- The place after the next character. -/
def Place.next? (place : Place) : Option Place :=
  match place.rest with
  | [] => none
  | c :: rest => some ⟨place.position + 1, some c, rest⟩

theorem next?_placeIn {text : List Char} {position : Nat} {c : Char} {rest : List Char}
    (here : text.drop position = c :: rest) :
    (placeIn text (position + 1)) = ⟨position + 1, some c, rest⟩ := by
  have inside : position < text.length := by
    by_contra outside
    rw [List.drop_eq_nil_of_le (Nat.le_of_not_lt outside)] at here
    exact absurd here (by simp)
  rw [List.drop_eq_getElem_cons inside, List.cons.injEq] at here
  obtain ⟨rfl, rfl⟩ := here
  rw [placeIn, List.take_succ_eq_append_getElem inside, List.getLast?_concat]

/-- How far a way has come at a place. -/
def Thread.progress (thread : Thread) (place : Place) : Progress :=
  ⟨place, thread.marks⟩

variable {program : Array Instruction} {place : Place} {thread way : Thread}
  {instruction : Instruction}

/-- The ways on which an instruction goes on are those to which it leads. -/
theorem leads_of_goOn {ways : List Thread} (goesOn : thread.step place instruction = .goOn ways)
    (member : way ∈ ways) :
    instruction.Leads (thread.progress place) way.next (way.progress place) := by
  cases instruction with
  | take set next =>
      simp only [Thread.step] at goesOn
      split at goesOn
      · exact Step.noConfusion goesOn
      · obtain rfl := Step.goOn.inj goesOn
        exact absurd member List.not_mem_nil
  | check assertion next =>
      obtain rfl := Step.goOn.inj goesOn
      split at member
      · rename_i holds
        obtain rfl := List.mem_singleton.1 member
        exact ⟨rfl, holds, rfl⟩
      · exact absurd member List.not_mem_nil
  | jump next =>
      obtain rfl := Step.goOn.inj goesOn
      obtain rfl := List.mem_singleton.1 member
      exact ⟨rfl, rfl⟩
  | fork first second =>
      obtain rfl := Step.goOn.inj goesOn
      rcases List.mem_pair.1 member with rfl | rfl
      · exact ⟨.inl rfl, rfl⟩
      · exact ⟨.inr rfl, rfl⟩
  | opening group next =>
      obtain rfl := Step.goOn.inj goesOn
      obtain rfl := List.mem_singleton.1 member
      exact ⟨rfl, rfl⟩
  | closing group next =>
      obtain rfl := Step.goOn.inj goesOn
      obtain rfl := List.mem_singleton.1 member
      exact ⟨rfl, rfl⟩
  | accept => exact Step.noConfusion goesOn

/-- An instruction that takes a character leads behind it. -/
theorem leads_of_taken (taken : thread.step place instruction = .taken way) :
    ∃ next, place.next? = some next ∧
      instruction.Leads (thread.progress place) way.next (way.progress next) := by
  cases instruction with
  | take set after =>
      simp only [Thread.step] at taken
      split at taken
      · rename_i inSet
        obtain rfl := Step.taken.inj taken
        cases rest : place.rest with
        | nil => simp [rest] at inSet
        | cons c others =>
            have contains : set.contains c = true := by simpa [rest] using inSet
            exact ⟨⟨place.position + 1, some c, others⟩, by simp [Place.next?, rest], rfl, c,
              others, rest, contains, rfl⟩
      · exact Step.noConfusion taken
  | check | jump | fork | opening | closing | accept => exact Step.noConfusion taken

theorem eq_accept_of_accepted (accepted : thread.step place instruction = .accepted) :
    instruction = .accept := by
  cases instruction with
  | take set next =>
      simp only [Thread.step] at accepted
      split at accepted <;> exact Step.noConfusion accepted
  | accept => rfl
  | check | jump | fork | opening | closing => exact Step.noConfusion accepted

/-! ## Following ways -/

/-- Whether all that can be found on a way from a place is among what is `Found`. -/
def ComesFrom (program : Array Instruction) (Found : Progress → Prop) (thread : Thread)
    (place : Place) : Prop :=
  ∀ steps final, Accepts program steps thread.next (thread.progress place) final → Found final

/-- To where a way leads, that comes from where the way comes from. -/
theorem ComesFrom.leads {Found : Progress → Prop} {after : Place}
    (come : ComesFrom program Found thread place)
    (here : program[thread.next]? = some instruction)
    (leads : instruction.Leads (thread.progress place) way.next (way.progress after)) :
    ComesFrom program Found way after :=
  fun _ final accepts => come _ final (.step here leads accepts)

/-- Whether an outcome has only ways that come from somewhere, and only marks that are found. -/
structure Outcome.Sound (program : Array Instruction) (Found : Progress → Prop) (place : Place)
    (outcome : Outcome) : Prop where
  threads : ∀ way ∈ outcome.threads, ∀ next, place.next? = some next →
    ComesFrom program Found way next
  accepted : ∀ marks, outcome.accepted = some marks → ∃ final, Found final ∧ final.marks = marks

variable {Found : Progress → Prop}

/-- Following ways that come from somewhere goes on with such ways, whichever instruction is
reached next. -/
theorem follow_sound {fuel : Nat} {reached : Array Bool} {threads taken : List Thread}
    (size : reached.size = program.size)
    (come : ∀ thread ∈ threads, ComesFrom program Found thread place)
    (comeNext : ∀ way ∈ taken, ∀ next, place.next? = some next → ComesFrom program Found way next) :
    (follow program place fuel reached threads taken).Sound program Found place := by
  have stopped : ∀ taken : List Thread,
      (∀ way ∈ taken, ∀ next, place.next? = some next → ComesFrom program Found way next) →
      Outcome.Sound program Found place ⟨taken.reverse, none⟩ :=
    fun taken comeNext => ⟨fun way member => comeNext way (List.mem_reverse.1 member), by simp⟩
  induction fuel generalizing reached threads taken with
  | zero => exact stopped taken comeNext
  | succ fuel ih =>
      cases threads with
      | nil => exact stopped taken comeNext
      | cons thread threads =>
          have here := come thread List.mem_cons_self
          have others : ∀ other ∈ threads, ComesFrom program Found other place :=
            fun other member => come other (List.mem_cons_of_mem _ member)
          rw [follow]
          split
          · exact ih size others comeNext
          · rename_i unreached
            -- an instruction that was not reached before is one of the program
            have inside : thread.next < program.size := by
              by_contra outside
              rw [← size] at outside
              exact unreached (by simp [Array.getD, outside])
            have instruction : program[thread.next]? = some (program.getD thread.next .accept) := by
              simp [Array.getD, inside]
            have size' : (reached.setIfInBounds thread.next true).size = program.size := by simpa
            dsimp only
            split
            · rename_i ways goesOn
              refine ih size' (fun way member => ?_) comeNext
              rcases List.mem_append.1 member with new | old
              · exact here.leads instruction (leads_of_goOn goesOn new)
              · exact others way old
            · rename_i way took
              refine ih size' others fun other member next isNext => ?_
              rcases List.mem_cons.1 member with rfl | old
              · obtain ⟨next', isNext', leads⟩ := leads_of_taken took
                obtain rfl := Option.some.inj (isNext.symm.trans isNext')
                exact here.leads instruction leads
              · exact comeNext other old next isNext
            · rename_i accepted
              rw [eq_accept_of_accepted accepted] at instruction
              refine ⟨(stopped taken comeNext).threads, fun marks same => ?_⟩
              obtain rfl := Option.some.inj same
              exact ⟨_, here 0 _ (.accept instruction), rfl⟩

theorem advance_sound {threads : List Thread}
    (come : ∀ thread ∈ threads, ComesFrom program Found thread place) :
    (advance program place threads).Sound program Found place :=
  follow_sound (by simp) come (by simp)

/-! ## Sweeping over a text -/

/-- What a program finds in a text from some place on. -/
def FoundIn (program : Array Instruction) (text : List Char) (final : Progress) : Prop :=
  ∃ start ≤ text.length, ∃ steps, Accepts program steps 0 ⟨placeIn text start, []⟩ final

/-- The way that begins at a place comes from there. -/
theorem comesFrom_beginning {text : List Char} {position : Nat} (within : position ≤ text.length) :
    ComesFrom program (FoundIn program text) ⟨0, []⟩ (placeIn text position) :=
  fun steps _ accepts => ⟨position, within, steps, accepts⟩

/-- What the ways of one place, and a new one if there is no match yet, add to the best match. -/
theorem sweep_place {text : List Char} {position : Nat} {best : Option (List Mark)}
    {threads : List Thread} (within : position ≤ text.length)
    (come : ∀ thread ∈ threads,
      ComesFrom program (FoundIn program text) thread (placeIn text position))
    (bestFound : ∀ marks, best = some marks →
      ∃ final, FoundIn program text final ∧ final.marks = marks) :
    let outcome := advance program (placeIn text position)
      (if best.isSome then threads else threads ++ [⟨0, []⟩])
    outcome.Sound program (FoundIn program text) (placeIn text position) ∧
      ∀ marks, outcome.accepted.or best = some marks →
        ∃ final, FoundIn program text final ∧ final.marks = marks := by
  intro outcome
  have sound : outcome.Sound program (FoundIn program text) (placeIn text position) := by
    refine advance_sound fun thread member => ?_
    split at member
    · exact come thread member
    · rcases List.mem_append.1 member with old | new
      · exact come thread old
      · obtain rfl := List.mem_singleton.1 new
        exact comesFrom_beginning within
  refine ⟨sound, fun marks better => ?_⟩
  rcases Option.or_eq_some_iff.1 better with accepted | ⟨-, before⟩
  · exact sound.accepted marks accepted
  · exact bestFound marks before

theorem sweep_sound {text rest : List Char} {best : Option (List Mark)} {threads : List Thread}
    {position : Nat} {previous : Option Char} {marks : List Mark} (within : position ≤ text.length)
    (here : placeIn text position = ⟨position, previous, rest⟩)
    (come : ∀ thread ∈ threads,
      ComesFrom program (FoundIn program text) thread (placeIn text position))
    (bestFound : ∀ marks, best = some marks →
      ∃ final, FoundIn program text final ∧ final.marks = marks)
    (found : sweep program best threads position previous rest = some marks) :
    ∃ final, FoundIn program text final ∧ final.marks = marks := by
  induction rest generalizing best threads position previous with
  | nil =>
      rw [sweep, ← here] at found
      exact (sweep_place within come bestFound).2 marks found
  | cons c rest ih =>
      obtain ⟨sound, better⟩ := sweep_place within come bestFound
      rw [sweep, ← here] at found
      -- the outcome gets a name, so that the match on it can be split
      generalize advance program (placeIn text position)
        (if best.isSome = true then threads else threads ++ [⟨0, []⟩]) = outcome
        at sound better found
      split at found
      · exact better marks found
      · have dropped : text.drop position = c :: rest := congrArg Place.rest here
        have longer : position < text.length := by
          by_contra outside
          rw [List.drop_eq_nil_of_le (Nat.le_of_not_lt outside)] at dropped
          exact absurd dropped (by simp)
        have next : placeIn text (position + 1) = ⟨position + 1, some c, rest⟩ :=
          next?_placeIn dropped
        refine ih longer next (fun way member => ?_) better found
        refine sound.threads way member _ ?_
        rw [next, here]
        rfl

/-- A match was read from one place of the text, where no group was marked yet. -/
theorem search?_reads {r : Regex} {text : List Char} {found : Match}
    (search : r.search? text = some found) :
    found.text = text ∧ ∃ start ≤ text.length, ∃ final,
      r.Reads ⟨placeIn text start, []⟩ final ∧ final.marks = found.marks := by
  obtain ⟨marks, swept, rfl⟩ := Option.map_eq_some_iff.1 search
  have beginning : placeIn text 0 = ⟨0, none, text⟩ := by simp [placeIn]
  obtain ⟨final, ⟨start, within, steps, accepts⟩, same⟩ :=
    sweep_sound (Nat.zero_le _) beginning (by simp) (by simp) swept
  exact ⟨rfl, start, within, final, reads_of_accepts accepts, same⟩

end Regex
end RequestRouting
