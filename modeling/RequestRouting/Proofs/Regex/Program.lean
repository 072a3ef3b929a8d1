import RequestRouting.Proofs.Regex.Reading

/-!
# What the program of an expression reads

The instructions of an expression form a block that is entered at its first instruction and left
at `next` only, and a way that passes through the block has read the expression (`Block`). There
is one lemma for each form in which blocks are put together, so that the theorem about whole
expressions (`block_code`) follows their structure.
-/

namespace RequestRouting
namespace Regex

/-! ## Steps of a program -/

/-- Whether an instruction leads from one place to another, and to the instruction `next`. -/
def Instruction.Leads (p : Progress) (next : Nat) (q : Progress) : Instruction → Prop
  | .take set after => next = after ∧ p.Takes set q
  | .check assertion after =>
    next = after ∧ assertion.holds p.place.previous p.place.rest = true ∧ p = q
  | .jump after => next = after ∧ p = q
  | .fork first second => (next = first ∨ next = second) ∧ p = q
  | .opening group after => next = after ∧ q = p.mark group false
  | .closing group after => next = after ∧ q = p.mark group true
  | .accept => False

/-- Whether a program comes in a number of steps from an instruction to its end, and there to
`final`. -/
inductive Accepts (program : Array Instruction) :
    (steps start : Nat) → (p final : Progress) → Prop
  | accept {start p} : program[start]? = some .accept → Accepts program 0 start p p
  | step {steps start next p q final} {instruction : Instruction} :
    program[start]? = some instruction → instruction.Leads p next q →
      Accepts program steps next q final → Accepts program (steps + 1) start p final

variable {program : Array Instruction} {steps start next : Nat} {p q final : Progress}

/-- An instruction that is not the end leads on. -/
theorem Accepts.leads {instruction : Instruction} (accepts : Accepts program steps start p final)
    (here : program[start]? = some instruction) (goesOn : instruction ≠ .accept) :
    ∃ fewer < steps, ∃ next q, instruction.Leads p next q ∧ Accepts program fewer next q final := by
  cases accepts with
  | accept ends =>
      rw [here] at ends
      exact absurd (Option.some.inj ends) goesOn
  | step there leads later =>
      obtain rfl : instruction = _ := Option.some.inj (here.symm.trans there)
      exact ⟨_, Nat.lt_succ_self _, _, _, leads, later⟩

/-- Whether a program has these instructions from `start` on. -/
def Located (program : Array Instruction) (start : Nat) (code : List Instruction) : Prop :=
  code <+: program.toList.drop start

theorem located_cons {instruction : Instruction} {code : List Instruction} :
    Located program start (instruction :: code) ↔
      program[start]? = some instruction ∧ Located program (start + 1) code := by
  unfold Located
  rw [← Array.getElem?_toList]
  by_cases inside : start < program.toList.length
  · rw [List.drop_eq_getElem_cons inside, List.cons_prefix_cons, List.getElem?_eq_getElem inside,
      Option.some.injEq, eq_comm]
  · have outside : program.toList.length ≤ start := Nat.le_of_not_lt inside
    simp [List.drop_eq_nil_of_le outside, List.getElem?_eq_none outside]

theorem located_append {first second : List Instruction} :
    Located program start (first ++ second) ↔
      Located program start first ∧ Located program (start + first.length) second := by
  induction first generalizing start with
  | nil => simp [Located]
  | cons instruction first ih =>
      rw [List.cons_append, located_cons, located_cons, ih, and_assoc, List.length_cons,
        show start + 1 + first.length = start + (first.length + 1) by omega]

/-! ## Blocks -/

/-- Code of one size, wherever it stands, that is left at `next` only, and only when `R` was
read. -/
structure Block (size : Nat) (code : (start next : Nat) → List Instruction)
    (R : Progress → Progress → Prop) : Prop where
  length : ∀ start next, (code start next).length = size
  through : ∀ {program : Array Instruction} {steps start next : Nat} {p final : Progress},
    Located program start (code start next) → Accepts program steps start p final →
      ∃ fewer < steps, ∃ q, R p q ∧ Accepts program fewer next q final

/-- Whether an instruction forks to two others, in one order or the other. -/
theorem leads_repeatOrLeave {greedy : Bool} {again leave : Nat}
    (leads : (repeatOrLeave greedy again leave).Leads p next q) :
    (next = again ∨ next = leave) ∧ p = q := by
  cases greedy with
  | true => exact leads
  | false => exact ⟨leads.1.symm, leads.2⟩

theorem repeatOrLeave_ne_accept (greedy : Bool) (again leave : Nat) :
    repeatOrLeave greedy again leave ≠ .accept := by
  cases greedy <;> exact Instruction.noConfusion

section

variable {size size' : Nat} {once code : (start next : Nat) → List Instruction}
  {R S : Progress → Progress → Prop}

/-- A single instruction is a block if it leads to `next` only. -/
theorem Block.single (instruction : Nat → Instruction)
    (leads : ∀ {next after p q}, (instruction next).Leads p after q → after = next ∧ R p q)
    (goesOn : ∀ next, instruction next ≠ .accept) :
    Block 1 (fun _ next => [instruction next]) R where
  length _ _ := rfl
  through located accepts := by
    obtain ⟨here, -⟩ := located_cons.1 located
    obtain ⟨fewer, less, after, q, led, later⟩ := accepts.leads here (goesOn _)
    obtain ⟨rfl, read⟩ := leads led
    exact ⟨fewer, less, q, read, later⟩

theorem Block.imp (block : Block size code R) (weaker : ∀ p q, R p q → S p q) :
    Block size code S where
  length := block.length
  through located accepts := by
    obtain ⟨fewer, less, q, read, later⟩ := block.through located accepts
    exact ⟨fewer, less, q, weaker _ _ read, later⟩

/-- One block after the other. -/
theorem Block.seq (first : Block size once R) (second : Block size' code S) :
    Block (size + size') (fun start next => once start (start + size) ++ code (start + size) next)
      (fun p q => ∃ m, R p m ∧ S m q) where
  length start next := by rw [List.length_append, first.length, second.length]
  through {program _ start next p final} located accepts := by
    obtain ⟨here, there⟩ := located_append.1 located
    -- the second block stands where the first one is left, as blocks have a fixed size
    rw [first.length] at there
    obtain ⟨fewer, less, m, read, later⟩ := first.through here accepts
    obtain ⟨fewer', less', q, read', later'⟩ := second.through there later
    exact ⟨fewer', Nat.lt_trans less' less, q, ⟨m, read, read'⟩, later'⟩

/-- Either of two blocks. -/
theorem Block.alt (first : Block size once R) (second : Block size' code S) :
    Block (size + size' + 1)
      (fun start next => .fork (start + 1) (start + 1 + size) ::
        once (start + 1) next ++ code (start + 1 + size) next)
      (fun p q => R p q ∨ S p q) where
  length start next := by
    rw [List.cons_append, List.length_cons, List.length_append, first.length, second.length]
  through located accepts := by
    rw [List.cons_append, located_cons, located_append, first.length] at located
    obtain ⟨fork, here, there⟩ := located
    obtain ⟨fewer, less, after, q, ⟨way, rfl⟩, later⟩ :=
      accepts.leads fork Instruction.noConfusion
    rcases way with rfl | rfl
    · obtain ⟨fewer', less', q, read, later'⟩ := first.through here later
      exact ⟨fewer', Nat.lt_trans less' less, q, .inl read, later'⟩
    · obtain ⟨fewer', less', q, read, later'⟩ := second.through there later
      exact ⟨fewer', Nat.lt_trans less' less, q, .inr read, later'⟩

/-- A block that may be passed over. -/
theorem Block.orLeave (greedy : Bool) (block : Block size code R) :
    Block (size + 1)
      (fun start next => repeatOrLeave greedy (start + 1) next :: code (start + 1) next)
      (fun p q => p = q ∨ R p q) where
  length start next := by rw [List.length_cons, block.length]
  through located accepts := by
    obtain ⟨fork, there⟩ := located_cons.1 located
    obtain ⟨fewer, less, after, q, led, later⟩ :=
      accepts.leads fork (repeatOrLeave_ne_accept _ _ _)
    obtain ⟨again | leave, rfl⟩ := leads_repeatOrLeave led
    · obtain ⟨fewer', less', q, read, later'⟩ := block.through there (again ▸ later)
      exact ⟨fewer', Nat.lt_trans less' less, q, .inr read, later'⟩
    · exact ⟨fewer, less, _, .inl rfl, leave ▸ later⟩

/-- A block a fixed number of times, and another one after it. -/
theorem Block.repeatCode (block : Block size once R) (after : Block size' code S) (count : Nat) :
    Block (count * size + size')
      (fun start next =>
        Regex.repeatCode size once (fun start => code start next) count start)
      (fun p q => ∃ m, Repeats R count p m ∧ S m q) := by
  induction count with
  | zero =>
      rw [Nat.zero_mul, Nat.zero_add]
      exact after.imp fun p q read => ⟨p, rfl, read⟩
  | succ count ih =>
      have both := block.seq ih
      rw [show (count + 1) * size + size' = size + (count * size + size') by
        rw [Nat.succ_mul]
        omega]
      exact both.imp fun p q ⟨m, first, m', others, last⟩ => ⟨m', ⟨m, first, others⟩, last⟩

/-- A block a number of times up to a bound. -/
theorem Block.upToCode (greedy : Bool) (block : Block size once R) (bound : Nat) :
    Block (bound * (size + 1) + 1)
      (fun start next => Regex.upToCode size greedy once next bound start)
      (fun p q => ∃ count ≤ bound, Repeats R count p q) := by
  induction bound with
  | zero =>
      rw [Nat.zero_mul, Nat.zero_add]
      refine Block.single .jump ?_ fun _ => Instruction.noConfusion
      exact fun ⟨there, same⟩ => ⟨there, 0, Nat.le_refl 0, same⟩
  | succ bound ih =>
      constructor
      · intro start next
        simp only [Regex.upToCode, List.cons_append, List.length_cons, List.length_append,
          block.length, ih.length, Nat.succ_mul]
        omega
      · intro program steps start next p final located accepts
        simp only [Regex.upToCode, List.cons_append] at located
        rw [located_cons, located_append, block.length] at located
        obtain ⟨fork, here, there⟩ := located
        obtain ⟨fewer, less, after, q, led, later⟩ :=
          accepts.leads fork (repeatOrLeave_ne_accept _ _ _)
        obtain ⟨again | leave, rfl⟩ := leads_repeatOrLeave led
        · obtain ⟨fewer', less', m, first, rest⟩ := block.through here (again ▸ later)
          obtain ⟨fewer'', less'', q, ⟨count, within, others⟩, last⟩ := ih.through there rest
          exact ⟨fewer'', Nat.lt_trans less'' (Nat.lt_trans less' less), q,
            ⟨count + 1, Nat.succ_le_succ within, m, first, others⟩, last⟩
        · exact ⟨fewer, less, p, ⟨0, Nat.zero_le _, rfl⟩, leave ▸ later⟩

/-- A block one or more times. The induction is on the number of steps, as a repetition comes
back to the beginning of the block. -/
theorem Block.plusCode (greedy : Bool) (block : Block size once R) :
    Block (size + 1) (fun start next => Regex.plusCode size greedy once next start)
      (fun p q => ∃ count, Repeats R (count + 1) p q) where
  length start next := by
    rw [Regex.plusCode, List.length_append, block.length, List.length_singleton]
  through {program steps start next p final} located accepts := by
    induction steps using Nat.strongRecOn generalizing p with
    | ind steps ih =>
        obtain ⟨here, there⟩ := located_append.1 located
        rw [block.length] at there
        obtain ⟨fork, -⟩ := located_cons.1 there
        obtain ⟨fewer, less, m, first, rest⟩ := block.through here accepts
        obtain ⟨fewer', less', after, q, led, later⟩ :=
          rest.leads fork (repeatOrLeave_ne_accept _ _ _)
        have fewerSteps := Nat.lt_trans less' less
        obtain ⟨again | leave, rfl⟩ := leads_repeatOrLeave led
        · -- back at the beginning of this block, with fewer steps to go
          obtain ⟨fewer'', less'', q, ⟨count, others⟩, last⟩ := ih fewer' fewerSteps (again ▸ later)
          exact ⟨fewer'', Nat.lt_trans less'' fewerSteps, q, ⟨count + 1, m, first, others⟩, last⟩
        · exact ⟨fewer', fewerSteps, m, ⟨0, m, first, rfl⟩, leave ▸ later⟩

/-- A block any number of times, where each time leads back to the fork before it. -/
theorem Block.loop (greedy : Bool) (block : Block size once R) :
    Block (size + 1)
      (fun start next => repeatOrLeave greedy (start + 1) next :: once (start + 1) start)
      (fun p q => ∃ count, Repeats R count p q) where
  length start next := by rw [List.length_cons, block.length]
  through {program steps start next p final} located accepts := by
    induction steps using Nat.strongRecOn generalizing p with
    | ind steps ih =>
        obtain ⟨fork, there⟩ := located_cons.1 located
        obtain ⟨fewer, less, after, q, led, later⟩ :=
          accepts.leads fork (repeatOrLeave_ne_accept _ _ _)
        obtain ⟨again | leave, rfl⟩ := leads_repeatOrLeave led
        · obtain ⟨fewer', less', m, first, rest⟩ := block.through there (again ▸ later)
          have fewerSteps := Nat.lt_trans less' less
          obtain ⟨fewer'', less'', q, ⟨count, others⟩, last⟩ := ih fewer' fewerSteps rest
          exact ⟨fewer'', Nat.lt_trans less'' fewerSteps, q, ⟨count + 1, m, first, others⟩, last⟩
        · exact ⟨fewer, less, p, ⟨0, rfl⟩, leave ▸ later⟩

/-- A block between the marks of a group. -/
theorem Block.capture (group : Nat) (block : Block size code R) :
    Block (size + 2)
      (fun start next => .opening group (start + 1) ::
        code (start + 1) (start + 1 + size) ++ [.closing group next])
      (fun p q => ∃ m, R (p.mark group false) m ∧ q = m.mark group true) where
  length start next := by
    rw [List.cons_append, List.length_cons, List.length_append, block.length,
      List.length_singleton]
  through located accepts := by
    rw [List.cons_append, located_cons, located_append, block.length] at located
    obtain ⟨opening, here, there⟩ := located
    obtain ⟨closing, -⟩ := located_cons.1 there
    obtain ⟨fewer, less, after, m, ⟨rfl, rfl⟩, begun⟩ :=
      accepts.leads opening Instruction.noConfusion
    obtain ⟨fewer', less', m', read, later⟩ := block.through here begun
    obtain ⟨fewer'', less'', after, q, ⟨rfl, rfl⟩, ended⟩ :=
      later.leads closing Instruction.noConfusion
    exact ⟨fewer'', Nat.lt_trans less'' (Nat.lt_trans less' less), _, ⟨m', read, rfl⟩, ended⟩

end

/-! ## Repetitions -/

section

variable {body : Regex}

/-- What is read a bounded number of times is read as often as it has to be, and then up to the
bound. -/
theorem Block.timesUpTo (greedy : Bool) (block : Block body.codeSize body.code body.Reads)
    (least bound : Nat) :
    Block (times body least (some bound) greedy).codeSize
      (times body least (some bound) greedy).code (times body least (some bound) greedy).Reads := by
  have both := block.repeatCode (block.upToCode greedy (bound - least)) least
  rw [← Nat.add_assoc] at both
  have size : (times body least (some bound) greedy).codeSize =
      least * body.codeSize + (bound - least) * (body.codeSize + 1) + 1 := by
    cases least <;> rfl
  have code : (times body least (some bound) greedy).code = fun start next =>
      Regex.repeatCode body.codeSize body.code (fun start =>
        Regex.upToCode body.codeSize greedy body.code next (bound - least) start) least start := by
    cases least <;> rfl
  rw [size, code]
  refine both.imp ?_
  rintro p q ⟨m, first, count, within, others⟩
  refine ⟨least + count, Nat.le_add_right _ _, ?_, repeats_append first others⟩
  intro _ same
  obtain rfl := Option.some.inj same
  omega

/-- Without a bound, the last of the times that are asked for may be repeated. -/
theorem Block.timesPlus (greedy : Bool) (block : Block body.codeSize body.code body.Reads)
    (least : Nat) :
    Block (times body (least + 1) none greedy).codeSize (times body (least + 1) none greedy).code
      (times body (least + 1) none greedy).Reads := by
  have both := block.repeatCode (block.plusCode greedy) least
  rw [← Nat.add_assoc, ← Nat.succ_mul] at both
  refine both.imp ?_
  rintro p q ⟨m, first, count, others⟩
  exact ⟨least + (count + 1), by omega, by simp, repeats_append first others⟩

/-- What may be left out altogether is a loop, or, if it can be read without taking anything, an
optional repetition. -/
theorem Block.timesStar (greedy : Bool) (block : Block body.codeSize body.code body.Reads) :
    Block (times body 0 none greedy).codeSize (times body 0 none greedy).code
      (times body 0 none greedy).Reads := by
  by_cases nullable : body.isNullable = true
  · have size : (times body 0 none greedy).codeSize = body.codeSize + 1 + 1 := by
      simp [codeSize, nullable]
    have code : (times body 0 none greedy).code = fun start next =>
        repeatOrLeave greedy (start + 1) next ::
          Regex.plusCode body.codeSize greedy body.code next (start + 1) := by
      funext start next
      simp [Regex.code, nullable]
    rw [size, code]
    refine ((block.plusCode greedy).orLeave greedy).imp ?_
    rintro p q (same | ⟨count, others⟩)
    · exact ⟨0, Nat.le_refl 0, by simp, same⟩
    · exact ⟨count + 1, Nat.zero_le _, by simp, others⟩
  · have size : (times body 0 none greedy).codeSize = body.codeSize + 1 := by
      simp [codeSize, nullable]
    have code : (times body 0 none greedy).code = fun start next =>
        repeatOrLeave greedy (start + 1) next :: body.code (start + 1) start := by
      funext start next
      simp [Regex.code, nullable]
    rw [size, code]
    refine (block.loop greedy).imp ?_
    rintro p q ⟨count, others⟩
    exact ⟨count, Nat.zero_le _, by simp, others⟩

end

/-! ## Whole expressions -/

/-- The instructions of an expression are a block that reads it. -/
theorem block_code (r : Regex) : Block r.codeSize r.code r.Reads := by
  induction r with
  | empty =>
      exact Block.single .jump (fun ⟨there, same⟩ => ⟨there, same⟩)
        fun _ => Instruction.noConfusion
  | char set =>
      exact Block.single (.take set) (fun ⟨there, takes⟩ => ⟨there, takes⟩)
        fun _ => Instruction.noConfusion
  | check assertion =>
      exact Block.single (.check assertion)
        (fun ⟨there, holds, same⟩ => ⟨there, holds, same⟩) fun _ => Instruction.noConfusion
  | seq first second ihFirst ihSecond => exact ihFirst.seq ihSecond
  | alt first second ihFirst ihSecond => exact ihFirst.alt ihSecond
  | capture group body ih => exact ih.capture group
  | times body least most greedy ih =>
      cases most with
      | some bound => exact ih.timesUpTo greedy least bound
      | none =>
          cases least with
          | succ least => exact ih.timesPlus greedy least
          | zero => exact ih.timesStar greedy

/-- A program that comes to its end has read its expression. -/
theorem reads_of_accepts {r : Regex} {steps : Nat} {p final : Progress}
    (accepts : Accepts r.program steps 0 p final) : r.Reads p final := by
  have block := r.block_code
  have located : Located r.program 0 (r.code 0 r.codeSize) := by
    simp [Located, program]
  have ends : r.program[r.codeSize]? = some .accept := by
    simp [program, block.length]
  obtain ⟨fewer, -, q, read, later⟩ := block.through located accepts
  -- behind the block stands the end of the program, from where no step leads on
  cases later with
  | accept _ => exact read
  | step here leads _ =>
      rw [ends] at here
      obtain rfl := Option.some.inj here
      exact leads.elim

end Regex
end RequestRouting
