import RequestRouting.Proofs.Regex.Program

/-!
# What an expression reads, its program reads

The converse of `Block`: wherever an expression can be read, a way leads through its instructions
to `next` (`Passable`). Again there is one lemma for each form in which code is put together, and
the theorem about whole expressions follows their structure (`passable_code`). Together both
directions say that a program comes to its end exactly where its expression can be read
(`comes_program_iff`).
-/

namespace RequestRouting
namespace Regex

/-- Whether a program comes from an instruction to its end, in whatever number of steps. -/
def Comes (program : Array Instruction) (start : Nat) (p final : Progress) : Prop :=
  ∃ steps, Accepts program steps start p final

variable {program : Array Instruction} {start next : Nat} {p q final : Progress}

theorem Comes.step {instruction : Instruction} (here : program[start]? = some instruction)
    (leads : instruction.Leads p next q) (later : Comes program next q final) :
    Comes program start p final := by
  obtain ⟨steps, accepts⟩ := later
  exact ⟨steps + 1, .step here leads accepts⟩

theorem leads_again (greedy : Bool) (again leave : Nat) (p : Progress) :
    (repeatOrLeave greedy again leave).Leads p again p := by
  cases greedy with
  | true => exact ⟨.inl rfl, rfl⟩
  | false => exact ⟨.inr rfl, rfl⟩

theorem leads_leave (greedy : Bool) (again leave : Nat) (p : Progress) :
    (repeatOrLeave greedy again leave).Leads p leave p := by
  cases greedy with
  | true => exact ⟨.inr rfl, rfl⟩
  | false => exact ⟨.inl rfl, rfl⟩

/-- Whether code leads from its first instruction to `next` wherever `R` can be read. -/
structure Passable (code : (start next : Nat) → List Instruction)
    (R : Progress → Progress → Prop) : Prop where
  through : ∀ {program : Array Instruction} {start next : Nat} {p q final : Progress},
    Located program start (code start next) → R p q → Comes program next q final →
      Comes program start p final

section

variable {size : Nat} {once code : (start next : Nat) → List Instruction}
  {R S : Progress → Progress → Prop}

theorem Passable.imp (passable : Passable code R) (stronger : ∀ p q, S p q → R p q) :
    Passable code S where
  through located read later := passable.through located (stronger _ _ read) later

theorem Passable.single (instruction : Nat → Instruction)
    (leads : ∀ {next p q}, R p q → (instruction next).Leads p next q) :
    Passable (fun _ next => [instruction next]) R where
  through located read later := by
    obtain ⟨here, -⟩ := located_cons.1 located
    exact .step here (leads read) later

theorem Passable.seq (length : ∀ start next, (once start next).length = size)
    (first : Passable once R) (second : Passable code S) :
    Passable (fun start next => once start (start + size) ++ code (start + size) next)
      (fun p q => ∃ m, R p m ∧ S m q) where
  through located read later := by
    obtain ⟨m, read, read'⟩ := read
    obtain ⟨here, there⟩ := located_append.1 located
    rw [length] at there
    exact first.through here read (second.through there read' later)

theorem Passable.alt (length : ∀ start next, (once start next).length = size)
    (first : Passable once R) (second : Passable code S) :
    Passable
      (fun start next => .fork (start + 1) (start + 1 + size) ::
        once (start + 1) next ++ code (start + 1 + size) next)
      (fun p q => R p q ∨ S p q) where
  through located read later := by
    rw [List.cons_append, located_cons, located_append, length] at located
    obtain ⟨fork, here, there⟩ := located
    rcases read with read | read
    · exact .step fork ⟨.inl rfl, rfl⟩ (first.through here read later)
    · exact .step fork ⟨.inr rfl, rfl⟩ (second.through there read later)

theorem Passable.orLeave (greedy : Bool) (passable : Passable code R) :
    Passable (fun start next => repeatOrLeave greedy (start + 1) next :: code (start + 1) next)
      (fun p q => p = q ∨ R p q) where
  through located read later := by
    obtain ⟨fork, there⟩ := located_cons.1 located
    rcases read with rfl | read
    · exact .step fork (leads_leave ..) later
    · exact .step fork (leads_again ..) (passable.through there read later)

theorem Passable.repeatCode (length : ∀ start next, (once start next).length = size)
    (passable : Passable once R) (after : Passable code S) (count : Nat) :
    Passable
      (fun start next => Regex.repeatCode size once (fun start => code start next) count start)
      (fun p q => ∃ m, Repeats R count p m ∧ S m q) := by
  induction count with
  | zero =>
      constructor
      rintro program start next p q final located ⟨m, rfl, read⟩ later
      exact after.through located read later
  | succ count ih =>
      constructor
      rintro program start next p q final located ⟨m, ⟨m', first, others⟩, last⟩ later
      obtain ⟨here, there⟩ := located_append.1 located
      rw [length] at there
      exact passable.through here first (ih.through there ⟨m, others, last⟩ later)

theorem Passable.upToCode (length : ∀ start next, (once start next).length = size)
    (greedy : Bool) (passable : Passable once R) (bound : Nat) :
    Passable (fun start next => Regex.upToCode size greedy once next bound start)
      (fun p q => ∃ count ≤ bound, Repeats R count p q) := by
  induction bound with
  | zero =>
      constructor
      rintro program start next p q final located ⟨count, none, repeats⟩ later
      obtain rfl : count = 0 := by omega
      obtain ⟨here, -⟩ := located_cons.1 located
      exact .step here ⟨rfl, repeats⟩ later
  | succ bound ih =>
      constructor
      rintro program start next p q final located ⟨count, within, repeats⟩ later
      simp only [Regex.upToCode, List.cons_append] at located
      rw [located_cons, located_append, length] at located
      obtain ⟨fork, here, there⟩ := located
      cases count with
      | zero =>
          obtain rfl : p = q := repeats
          exact .step fork (leads_leave ..) later
      | succ count =>
          obtain ⟨m, first, others⟩ := repeats
          have rest := ih.through there ⟨count, by omega, others⟩ later
          exact .step fork (leads_again ..) (passable.through here first rest)

theorem Passable.plusCode (length : ∀ start next, (once start next).length = size)
    (greedy : Bool) (passable : Passable once R) :
    Passable (fun start next => Regex.plusCode size greedy once next start)
      (fun p q => ∃ count, Repeats R (count + 1) p q) := by
  constructor
  rintro program start next p q final located ⟨count, repeats⟩ later
  obtain ⟨here, there⟩ := located_append.1 located
  rw [length] at there
  obtain ⟨fork, -⟩ := located_cons.1 there
  -- each time but the last leads back to the beginning
  induction count generalizing p with
  | zero =>
      obtain ⟨m, once, same⟩ := repeats
      obtain rfl : m = q := same
      exact passable.through here once (.step fork (leads_leave ..) later)
  | succ count ih =>
      obtain ⟨m, once, others⟩ := repeats
      exact passable.through here once (.step fork (leads_again ..) (ih others))

theorem Passable.loop (greedy : Bool) (passable : Passable once R) :
    Passable (fun start next => repeatOrLeave greedy (start + 1) next :: once (start + 1) start)
      (fun p q => ∃ count, Repeats R count p q) := by
  constructor
  rintro program start next p q final located ⟨count, repeats⟩ later
  obtain ⟨fork, there⟩ := located_cons.1 located
  induction count generalizing p with
  | zero =>
      obtain rfl : p = q := repeats
      exact .step fork (leads_leave ..) later
  | succ count ih =>
      obtain ⟨m, once, others⟩ := repeats
      exact .step fork (leads_again ..) (passable.through there once (ih others))

theorem Passable.capture (group : Nat) (length : ∀ start next, (code start next).length = size)
    (passable : Passable code R) :
    Passable
      (fun start next => .opening group (start + 1) ::
        code (start + 1) (start + 1 + size) ++ [.closing group next])
      (fun p q => ∃ m, R (p.mark group false) m ∧ q = m.mark group true) where
  through located read later := by
    obtain ⟨m, read, rfl⟩ := read
    rw [List.cons_append, located_cons, located_append, length] at located
    obtain ⟨opening, here, there⟩ := located
    obtain ⟨closing, -⟩ := located_cons.1 there
    have rest := passable.through here read (.step closing ⟨rfl, rfl⟩ later)
    exact .step opening ⟨rfl, rfl⟩ rest

end

/-! ## Repetitions -/

theorem repeats_split {R : Progress → Progress → Prop} {count more : Nat}
    (repeats : Repeats R (count + more) p q) :
    ∃ m, Repeats R count p m ∧ Repeats R more m q := by
  induction count generalizing p with
  | zero => exact ⟨p, rfl, by rwa [Nat.zero_add] at repeats⟩
  | succ count ih =>
      rw [Nat.succ_add] at repeats
      obtain ⟨m, once, others⟩ := repeats
      obtain ⟨m', first, second⟩ := ih others
      exact ⟨m', ⟨m, once, first⟩, second⟩

/-- The repetitions of what can be read in a number of times that is allowed. -/
theorem passable_times {body : Regex} (passable : Passable body.code body.Reads) (least : Nat)
    (most : Option Nat) (greedy : Bool) :
    Passable (times body least most greedy).code (times body least most greedy).Reads := by
  have length := body.block_code.length
  match least, most with
  | least, some bound =>
      have code : (times body least (some bound) greedy).code = fun start next =>
          Regex.repeatCode body.codeSize body.code (fun start =>
            Regex.upToCode body.codeSize greedy body.code next (bound - least) start)
              least start := by
        cases least <;> rfl
      rw [code]
      refine (Passable.repeatCode length passable
        (Passable.upToCode length greedy passable (bound - least)) least).imp ?_
      rintro p q ⟨count, enough, within, repeats⟩
      have atMost : count ≤ max least bound := within bound rfl
      obtain ⟨more, rfl⟩ := Nat.exists_eq_add_of_le enough
      obtain ⟨m, first, others⟩ := repeats_split repeats
      exact ⟨m, first, more, by omega, others⟩
  | least + 1, none =>
      refine (Passable.repeatCode length passable
        (Passable.plusCode length greedy passable) least).imp ?_
      rintro p q ⟨count, enough, -, repeats⟩
      obtain ⟨more, rfl⟩ := Nat.exists_eq_add_of_le enough
      rw [Nat.add_assoc, Nat.add_comm 1] at repeats
      obtain ⟨m, first, others⟩ := repeats_split repeats
      exact ⟨m, first, more, others⟩
  | 0, none =>
      by_cases nullable : body.isNullable = true
      · have code : (times body 0 none greedy).code = fun start next =>
            repeatOrLeave greedy (start + 1) next ::
              Regex.plusCode body.codeSize greedy body.code next (start + 1) := by
          funext start next
          simp [Regex.code, nullable]
        rw [code]
        refine ((Passable.plusCode length greedy passable).orLeave greedy).imp ?_
        rintro p q ⟨count, -, -, repeats⟩
        cases count with
        | zero => exact .inl repeats
        | succ count => exact .inr ⟨count, repeats⟩
      · have code : (times body 0 none greedy).code = fun start next =>
            repeatOrLeave greedy (start + 1) next :: body.code (start + 1) start := by
          funext start next
          simp [Regex.code, nullable]
        rw [code]
        refine (passable.loop greedy).imp ?_
        rintro p q ⟨count, -, -, repeats⟩
        exact ⟨count, repeats⟩

/-! ## Whole expressions -/

/-- A way leads through the instructions of an expression wherever it can be read. -/
theorem passable_code (r : Regex) : Passable r.code r.Reads := by
  induction r with
  | empty => exact Passable.single .jump fun same => ⟨rfl, same⟩
  | char set => exact Passable.single (.take set) fun takes => ⟨rfl, takes⟩
  | check assertion =>
      exact Passable.single (.check assertion) fun ⟨holds, same⟩ => ⟨rfl, holds, same⟩
  | seq first second ihFirst ihSecond =>
      exact Passable.seq first.block_code.length ihFirst ihSecond
  | alt first second ihFirst ihSecond =>
      exact Passable.alt first.block_code.length ihFirst ihSecond
  | capture group body ih => exact Passable.capture group body.block_code.length ih
  | times body least most greedy ih => exact passable_times ih least most greedy

/-- A program comes to its end exactly where its expression can be read. -/
theorem comes_program_iff {r : Regex} : Comes r.program 0 p final ↔ r.Reads p final := by
  constructor
  · rintro ⟨steps, accepts⟩
    exact reads_of_accepts accepts
  · intro reads
    have located : Located r.program 0 (r.code 0 r.codeSize) := by
      simp [Located, program]
    have ends : r.program[r.codeSize]? = some .accept := by
      simp [program, r.block_code.length]
    exact r.passable_code.through located reads ⟨0, .accept ends⟩

end Regex
end RequestRouting
