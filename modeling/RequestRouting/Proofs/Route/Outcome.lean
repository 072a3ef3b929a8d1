import RequestRouting.Proofs.Route.Leading
import RequestRouting.Regex.Standard

/-!
# The outcome of a selection

A selection sorts the candidates and looks at the first ones. In a weak order this tells which
candidate wins of all (`WinsAlone`), and if none does, which ones tie in front of the others and
which two of these were given first (`select_of_isWeakOrderOn`).
-/

namespace RequestRouting

section

variable {α : Type} {compare : α → α → Ordering} {values : List α} {least best : α}

/-- Whether a value precedes all others of a list. If it is there twice, it is one of the others. -/
def WinsAlone (compare : α → α → Ordering) (best : α) (values : List α) : Prop :=
  ∃ front back, values = front ++ best :: back ∧
    ∀ other ∈ front ++ back, compare best other = .lt

theorem mem_of_mem_others {front back : List α} {other : α} (member : other ∈ front ++ back) :
    other ∈ front ++ best :: back :=
  ((List.sublist_cons_self best back).append_left front).subset member

/-- A value wins exactly if it is the only one that leads. -/
theorem leading_eq_singleton_iff (weak : IsWeakOrderOn compare values) :
    leading compare values = [best] ↔ WinsAlone compare best values := by
  constructor
  · intro alone
    have leads : best ∈ leading compare values := by simp [alone]
    obtain ⟨front, back, rfl, notFront, -, notBack⟩ := List.filter_eq_cons_iff.1 alone
    refine ⟨front, back, rfl, fun other member => ?_⟩
    refine compare_of_not_leading weak leads (mem_of_mem_others member) fun leadsToo => ?_
    obtain ⟨-, first⟩ := List.mem_filter.1 leadsToo
    rcases List.mem_append.1 member with before | after
    · exact notFront other before first
    · exact List.filter_eq_nil_iff.1 notBack other after first
  · rintro ⟨front, back, rfl, before⟩
    have given : best ∈ front ++ best :: back := List.mem_append_right _ List.mem_cons_self
    have leads : best ∈ leading compare (front ++ best :: back) := by
      refine mem_leading.2 ⟨given, fun b member => ?_⟩
      rcases List.mem_append.1 member with inFront | member
      · simp [before b (List.mem_append_left _ inFront)]
      · rcases List.mem_cons.1 member with rfl | inBack
        · exact weak.self given
        · simp [before b (List.mem_append_right _ inBack)]
    have behind : ∀ other ∈ front ++ back, other ∉ leading compare (front ++ best :: back) := by
      intro other member leadsToo
      have notAfter := (mem_leading.1 leadsToo).2 best given
      rw [weak.swap best given other (mem_of_mem_others member), before other member] at notAfter
      exact notAfter rfl
    have rejected : ∀ other ∈ front ++ back,
        ¬ ((front ++ best :: back).all fun b => compare other b != .gt) = true :=
      fun other member first =>
        behind other member (List.mem_filter.2 ⟨mem_of_mem_others member, first⟩)
    obtain ⟨notFront, notBack⟩ := List.forall_mem_append.1 rejected
    exact List.filter_eq_cons_iff.2
      ⟨front, back, rfl, notFront, (List.mem_filter.1 leads).2, List.filter_eq_nil_iff.2 notBack⟩

/-- The values that lead are those that tie with one of them. -/
theorem leading_eq_filter (weak : IsWeakOrderOn compare values)
    (leads : least ∈ leading compare values) :
    leading compare values = values.filter (compare least · == .eq) := by
  refine List.filter_congr fun a member => ?_
  rw [Bool.eq_iff_iff, beq_iff_eq]
  constructor
  · intro first
    exact compare_of_leading weak leads (List.mem_filter.2 ⟨member, first⟩)
  · intro tied
    by_contra behind
    have notLeading : a ∉ leading compare values :=
      fun leads => behind (List.mem_filter.1 leads).2
    simp [compare_of_not_leading weak leads member notLeading] at tied

end

/-- In a weak order of the candidates a selection finds nothing only if there are none, and the
candidate that precedes all others if there is one. Else there are several that tie with any one
that no other precedes: on a preflight for one of which pages of other origins are allowed the tie
is passed over, and otherwise the first two of them are reported. -/
theorem select_of_isWeakOrderOn {compare : Candidate → Candidate → Ordering}
    {cs : List Candidate} (request : Request) (source : MatchSource)
    (weak : IsWeakOrderOn compare cs) :
    let result := select request source compare cs
    (result = .noMatch ↔ cs = []) ∧
      (∀ found, result = .handler found ↔
        ∃ best, WinsAlone compare best cs ∧ best.toMatch source = found) ∧
      (cs ≠ [] → ∃ least ∈ cs, ∀ c ∈ cs, compare least c ≠ .gt) ∧
      ∀ least ∈ cs, (∀ c ∈ cs, compare least c ≠ .gt) → (¬∃ best, WinsAlone compare best cs) →
        ∃ first second others,
          cs.filter (compare least · == .eq) = first :: second :: others ∧
            (result = .ambiguousPreflight ↔ request.isPreflight = true ∧
              ∃ c ∈ first :: second :: others, c.conditions.crossOrigin = true) ∧
            (result ≠ .ambiguousPreflight →
              result = .ambiguous first.entry.handler second.entry.handler) := by
  intro result
  have settled : result = settle request source (leading compare cs) :=
    select_eq_settle request source weak
  refine ⟨select_eq_noMatch_iff, ?_, ?_, ?_⟩
  · intro found
    simp only [settled, settle_eq_handler_iff, leading_eq_singleton_iff weak]
  · intro some
    obtain ⟨least, leads⟩ := List.exists_mem_of_ne_nil _ (leading_ne_nil weak some)
    exact ⟨least, mem_leading.1 leads⟩
  · intro least member first noWinner
    have leads : least ∈ leading compare cs := mem_leading.2 ⟨member, first⟩
    rw [← leading_eq_filter weak leads]
    match leaders : leading compare cs with
    | [] => simp [leaders] at leads
    | [best] => exact absurd ⟨best, (leading_eq_singleton_iff weak).1 leaders⟩ noWinner
    | first :: second :: others =>
        refine ⟨first, second, others, rfl, ?_⟩
        rw [settled, leaders, settle]
        split
        · rename_i preflight
          simpa using preflight
        · rename_i other
          simpa using other

/-- On a preflight two candidates with a condition tie before one without. That this one allows
pages of other origins does not count, as it is not among those that tie. -/
theorem select_of_tie_behind :
    ∃ pattern ∈ (PathPattern.compile false "/x/{id}").toOption,
      let candidate (id : Nat) (handler : String) (conditions : Conditions) : Candidate :=
        ⟨⟨⟨id⟩, .options, pattern, conditions, handler⟩, conditions, .empty⟩
      let cs := [candidate 0 "plain" { crossOrigin := true },
        candidate 1 "dated" { params := [.parse "date"] },
        candidate 2 "sorted" { params := [.parse "sort"] }]
      let request : Request := ⟨.options, "/x/5", .empty,
        .ofList [("Origin", "a"), ("Access-Control-Request-Method", "GET")]⟩
      IsWeakOrderOn Candidate.compareConditions cs ∧ request.isPreflight = true ∧
        select request .tree Candidate.compareConditions cs = .ambiguous "dated" "sorted" := by
  have compiles : ((PathPattern.compile false "/x/{id}").toOption).isSome = true := by
    decide +kernel
  obtain ⟨pattern, compiled⟩ := Option.isSome_iff_exists.1 compiles
  refine ⟨pattern, compiled, ?_⟩
  intro candidate cs request
  have weak : IsWeakOrderOn Candidate.compareConditions cs :=
    Candidate.isWeakOrderOn_compareConditions cs
  refine ⟨weak, by decide, ?_⟩
  have leaders : leading Candidate.compareConditions cs =
      [candidate 1 "dated" { params := [.parse "date"] },
        candidate 2 "sorted" { params := [.parse "sort"] }] := rfl
  have noWinner : ¬∃ best, WinsAlone Candidate.compareConditions best cs := by
    rintro ⟨best, wins⟩
    have alone := (leading_eq_singleton_iff weak).2 wins
    rw [leaders] at alone
    exact absurd (congrArg List.length alone) (by simp)
  obtain ⟨least, first⟩ := mem_leading.1 (leaders ▸ List.mem_cons_self)
  obtain ⟨one, two, others, tied, passed, reported⟩ :=
    (select_of_isWeakOrderOn request .tree weak).2.2.2 _ least first noWinner
  obtain ⟨rfl, rest⟩ := List.cons.inj tied
  obtain ⟨rfl, rfl⟩ := List.cons.inj rest
  refine reported fun preflight => ?_
  obtain ⟨-, c, member, allowed⟩ := passed.1 preflight
  rcases List.mem_pair.1 member with rfl | rfl <;> exact absurd allowed Bool.false_ne_true

end RequestRouting
