import RequestRouting.Proofs.Route.Selection

/-!
# Ranking a class of candidates

A sort is only as good as its comparison: this has to be a weak order of the candidates that are
ranked (`IsWeakOrderOn`). If one class of candidates then comes before all others, what is selected
depends on this class alone (`select_of_first`). The routes whose pattern is the path itself are
such a class (`select_of_exact`).
-/

namespace RequestRouting

/-- Whether a comparison is a weak order of some values: turning it round turns the outcome round,
and what is not after another is not after any that follows this. -/
structure IsWeakOrderOn {α : Type} (compare : α → α → Ordering) (values : List α) : Prop where
  swap : ∀ a ∈ values, ∀ b ∈ values, compare b a = (compare a b).swap
  trans : ∀ a ∈ values, ∀ b ∈ values, ∀ c ∈ values,
    compare a b ≠ .gt → compare b c ≠ .gt → compare a c ≠ .gt

instance {α : Type} (compare : α → α → Ordering) (values : List α) :
    Decidable (IsWeakOrderOn compare values) :=
  decidable_of_iff (_ ∧ _) ⟨fun laws => ⟨laws.1, laws.2⟩, fun weak => ⟨weak.swap, weak.trans⟩⟩

/-! ## Stable sorting -/

section

variable {α : Type} {le : α → α → Bool}

/-- A list has one split only before the elements with a property. -/
theorem append_inj_of_split {p : α → Bool} {first second first' second' : List α}
    (same : first ++ second = first' ++ second') (before : ∀ a ∈ first, p a = false)
    (after : ∀ a ∈ second, p a = true) (before' : ∀ a ∈ first', p a = false)
    (after' : ∀ a ∈ second', p a = true) : first = first' ∧ second = second' := by
  have split : ∀ {first second : List α}, (∀ a ∈ first, p a = false) → (∀ a ∈ second, p a = true) →
      (first ++ second).filter p = second ∧ (first ++ second).filter (!p ·) = first := by
    intro first second before after
    constructor
    · rw [List.filter_append, List.filter_eq_self.2 after,
        List.filter_eq_nil_iff.2 fun a member => by simp [before a member], List.nil_append]
    · rw [List.filter_append, List.filter_eq_self.2 fun a member => by simp [before a member],
        List.filter_eq_nil_iff.2 fun a member => by simp [after a member], List.append_nil]
  obtain ⟨left, right⟩ := split before after
  obtain ⟨left', right'⟩ := split before' after'
  rw [same] at left right
  exact ⟨right.symm.trans right', left.symm.trans left'⟩

/-- Sorting keeps the order in which elements of a class would be sorted among themselves. -/
theorem filter_mergeSort (trans : ∀ a b c, le a b → le b c → le a c)
    (total : ∀ a b, le a b || le b a) (p : α → Bool) (as : List α) :
    (as.mergeSort le).filter p = (as.filter p).mergeSort le := by
  induction as with
  | nil => simp
  | cons a as ih =>
      obtain ⟨smaller, larger, sorted, sortedRest, before⟩ := List.mergeSort_cons trans total a as
      have ordered := List.pairwise_mergeSort trans total (a :: as)
      rw [sorted, List.pairwise_append] at ordered
      have after := (List.pairwise_cons.1 ordered.2.1).1
      rw [sortedRest, List.filter_append] at ih
      rw [sorted, List.filter_append, List.filter_cons, List.filter_cons]
      split
      · obtain ⟨smaller', larger', sorted', sortedRest', before'⟩ :=
          List.mergeSort_cons trans total a (as.filter p)
        have ordered' := List.pairwise_mergeSort trans total (a :: as.filter p)
        rw [sorted', List.pairwise_append] at ordered'
        have after' := (List.pairwise_cons.1 ordered'.2.1).1
        -- the element stands behind those that are smaller, with and without the others
        obtain ⟨same, same'⟩ := append_inj_of_split (p := le a) (ih.trans sortedRest')
          (fun b member => by simpa using before b (List.mem_of_mem_filter member))
          (fun b member => after b (List.mem_of_mem_filter member))
          (fun b member => by simpa using before' b member) after'
        rw [sorted', same, same']
      · exact ih

/-- Elements that are never after the others are sorted first. -/
theorem mergeSort_of_first (trans : ∀ a b c, le a b → le b c → le a c)
    (total : ∀ a b, le a b || le b a) (p : α → Bool)
    (first : ∀ a b, p a = true → p b = false → le b a = false) (as : List α) :
    as.mergeSort le = (as.filter p).mergeSort le ++ (as.filter (!p ·)).mergeSort le := by
  rw [← filter_mergeSort trans total, ← filter_mergeSort trans total]
  have ordered := List.pairwise_mergeSort trans total as
  generalize as.mergeSort le = sorted at ordered
  induction sorted with
  | nil => rfl
  | cons a sorted ih =>
      obtain ⟨before, ordered⟩ := List.pairwise_cons.1 ordered
      have rest := ih ordered
      cases here : p a with
      | true => simpa [here] using rest
      | false =>
          -- none of the class follows
          have none : sorted.filter p = [] := by
            refine List.filter_eq_nil_iff.2 fun b member inClass => ?_
            have notBefore := first b a inClass here
            rw [before b member] at notBefore
            exact absurd notBefore (by decide)
          rw [none, List.nil_append] at rest
          simp [here, none, ← rest]

end

/-! ## The class that comes first -/

section

variable {compare : Candidate → Candidate → Ordering} {cs : List Candidate} {p : Candidate → Bool}

/-- Candidates of a class that comes before all others are ranked first, as they would be without
the others. -/
theorem ranked_of_first (weak : IsWeakOrderOn compare cs)
    (first : ∀ a ∈ cs, ∀ b ∈ cs, p a = true → p b = false → compare a b = .lt) :
    ranked compare cs = ranked compare (cs.filter p) ++ ranked compare (cs.filter (!p ·)) := by
  -- a sort needs its laws of all values, which here are the candidates
  let le (a b : { c // c ∈ cs }) : Bool := compare a b != .gt
  have trans : ∀ a b c, le a b → le b c → le a c := by
    intro a b c ab bc
    simp only [le, bne_iff_ne] at ab bc ⊢
    exact weak.trans a a.2 b b.2 c c.2 ab bc
  have total : ∀ a b, le a b || le b a := by
    intro a b
    simp only [le, weak.swap a a.2 b b.2]
    cases compare a b <;> rfl
  have before : ∀ a b : { c // c ∈ cs }, p a = true → p b = false → le b a = false := by
    intro a b inClass notInClass
    simp [le, weak.swap a a.2 b b.2, first a a.2 b b.2 inClass notInClass]
  have sorted := mergeSort_of_first trans total (p ∘ Subtype.val) before cs.attach
  have values : ∀ as : List { c // c ∈ cs },
      (as.mergeSort le).map Subtype.val = ranked compare (as.map Subtype.val) :=
    fun as => List.map_mergeSort fun _ _ _ _ => rfl
  have filtered : ∀ q : Candidate → Bool,
      (cs.attach.filter (q ∘ Subtype.val)).map Subtype.val = cs.filter q := by
    intro q
    rw [← List.filter_map, List.attach_map_subtype_val]
  have whole := congrArg (List.map Subtype.val) sorted
  rw [List.map_append, values, values, values, List.attach_map_subtype_val, filtered] at whole
  exact whole.trans (congrArg (_ ++ ranked compare ·) (filtered (!p ·)))

theorem takeWhile_append_of_not {α : Type} {q : α → Bool} {as others : List α}
    (none : ∀ b ∈ others, q b = false) : (as ++ others).takeWhile q = as.takeWhile q := by
  induction as with
  | nil => cases others <;> simp_all
  | cons a as ih => rw [List.cons_append, List.takeWhile_cons, List.takeWhile_cons, ih]

/-- Of candidates of which a class comes before all others this class decides. -/
theorem select_of_first (request : Request) (source : MatchSource)
    (weak : IsWeakOrderOn compare cs)
    (first : ∀ a ∈ cs, ∀ b ∈ cs, p a = true → p b = false → compare a b = .lt)
    (some : cs.filter p ≠ []) :
    select request source compare cs = select request source compare (cs.filter p) := by
  have members : ∀ a ∈ ranked compare (cs.filter p), a ∈ cs ∧ p a = true :=
    fun a member => List.mem_filter.1 (mem_ranked.1 member)
  have others : ∀ a ∈ ranked compare (cs.filter p), ∀ b ∈ ranked compare (cs.filter (!p ·)),
      compare a b = .lt := by
    intro a memberA b memberB
    obtain ⟨inA, isA⟩ := members a memberA
    obtain ⟨inB, isB⟩ := List.mem_filter.1 (mem_ranked.1 memberB)
    exact first a inA b inB isA (by simpa using isB)
  have occupied : ranked compare (cs.filter p) ≠ [] :=
    fun none => some ((ranked_eq_nil_iff compare).1 none)
  unfold select
  rw [ranked_of_first weak first]
  generalize ranked compare (cs.filter p) = front at occupied others
  generalize ranked compare (cs.filter (!p ·)) = rest at others
  match front, occupied with
  | [best], _ =>
      cases rest with
      | nil => rfl
      | cons next rest =>
          have before := others best List.mem_cons_self next List.mem_cons_self
          simp [before]
  | best :: next :: front, _ =>
      have tied : ((best :: next :: front) ++ rest).takeWhile (compare best · == .eq) =
          (best :: next :: front).takeWhile (compare best · == .eq) :=
        takeWhile_append_of_not fun b member => by
          simp [others best List.mem_cons_self b member]
      rw [List.cons_append, List.cons_append] at tied ⊢
      simp only [tied]

end

/-! ## Patterns that are the path -/

/-- A pattern that is the path itself precedes all others, and ties with those of the same text. -/
theorem PathPattern.compareSpecificity_of_exact {a b : PathPattern} {path : String}
    (notAll : path ≠ "/**") (exact : a.text = path) :
    a.compareSpecificity b path = if b.text = path then .eq else .lt := by
  have notCatchAll : ∀ pattern : PathPattern, pattern.text = path → pattern.isCatchAll = false := by
    intro pattern same
    simpa [isCatchAll, same] using notAll
  unfold compareSpecificity
  rw [notCatchAll a exact, exact]
  by_cases same : b.text = path
  · simp [notCatchAll b same, same]
  · have other : (b.text == path) = false := by simpa using same
    cases b.isCatchAll <;> simp [same, other]

/-- Candidates whose pattern is the path itself precede all others, and are ranked among each other
by their conditions. -/
theorem Candidate.compareForPath_of_exact {a b : Candidate} {path : String} (notAll : path ≠ "/**")
    (exact : a.entry.pattern.text = path) :
    a.compareForPath path b =
      if b.entry.pattern.text = path then a.compareConditions b else .lt := by
  rw [compareForPath, PathPattern.compareSpecificity_of_exact notAll exact]
  split <;> rfl

/-- If the pattern of a candidate is the path itself, the linear matcher selects as the tree does
among all candidates with this pattern. -/
theorem select_of_exact (request : Request) {path : String} {cs : List Candidate}
    (notAll : path ≠ "/**") (weak : IsWeakOrderOn (Candidate.compareForPath path) cs)
    (some : cs.filter (·.entry.pattern.text == path) ≠ []) :
    select request .fallback (Candidate.compareForPath path) cs =
      (select request .tree Candidate.compareConditions
        (cs.filter (·.entry.pattern.text == path))).mapMatch
          fun found => { found with source := .fallback } := by
  have first : ∀ a ∈ cs, ∀ b ∈ cs, (a.entry.pattern.text == path) = true →
      (b.entry.pattern.text == path) = false → Candidate.compareForPath path a b = .lt := by
    intro a _ b _ exact other
    rw [Candidate.compareForPath_of_exact notAll (by simpa using exact), if_neg]
    simpa using other
  have order : ∀ a ∈ cs.filter (·.entry.pattern.text == path),
      ∀ b ∈ cs.filter (·.entry.pattern.text == path),
        Candidate.compareConditions a b = Candidate.compareForPath path (id a) (id b) := by
    intro a memberA b memberB
    have exact : a.entry.pattern.text = path := by simpa using (List.mem_filter.1 memberA).2
    have exact' : b.entry.pattern.text = path := by simpa using (List.mem_filter.1 memberB).2
    rw [id, id, Candidate.compareForPath_of_exact notAll exact, if_pos exact']
  rw [select_of_first request .fallback weak first some,
    ← select_map id order (fun _ => rfl) (fun _ => rfl) fun _ => rfl, List.map_id]

end RequestRouting
