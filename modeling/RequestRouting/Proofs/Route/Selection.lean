import Mathlib.Data.List.Perm.Subperm
import RequestRouting.Route.Selection

/-!
# What a selection returns

Ranking candidates loses none and adds none, so that every outcome of a selection speaks of the
candidates that it was given.
-/

namespace RequestRouting

theorem MatchResult.match?_eq_some_iff {result : MatchResult} {found : RouteMatch} :
    result.match? = some found ↔ result = .handler found := by
  cases result <;> simp [match?]

theorem Candidate.of?_eq_some_iff {request : Request} {path : String} {entry : RouteEntry}
    {candidate : Candidate} :
    Candidate.of? request path entry = some candidate ↔
      candidate.entry = entry ∧ entry.pattern.match? path = some candidate.params ∧
        entry.conditions.matching? request = some candidate.conditions := by
  constructor
  · intro made
    simp only [of?, Option.bind_eq_bind, Option.bind_eq_some_iff, Option.pure_def,
      Option.some.injEq] at made
    obtain ⟨params, matched, conditions, satisfied, rfl⟩ := made
    exact ⟨rfl, matched, satisfied⟩
  · rintro ⟨rfl, matched, satisfied⟩
    simp [of?, matched, satisfied]

theorem mem_candidates {request : Request} {path : String} {entries : List RouteEntry}
    {candidate : Candidate} :
    candidate ∈ candidates request path entries ↔
      ∃ entry ∈ entries, Candidate.of? request path entry = some candidate :=
  List.mem_filterMap

/-- No route is a candidate exactly if each fails by its pattern or its conditions. -/
theorem candidates_eq_nil_iff {request : Request} {path : String} {entries : List RouteEntry} :
    candidates request path entries = [] ↔
      ∀ entry ∈ entries, ¬((entry.pattern.match? path).isSome ∧
        (entry.conditions.matching? request).isSome) := by
  constructor
  · rintro none entry member ⟨matched, satisfied⟩
    obtain ⟨params, matched⟩ := Option.isSome_iff_exists.1 matched
    obtain ⟨conditions, satisfied⟩ := Option.isSome_iff_exists.1 satisfied
    have candidate : (⟨entry, conditions, params⟩ : Candidate) ∈ candidates request path entries :=
      mem_candidates.2 ⟨entry, member, Candidate.of?_eq_some_iff.2 ⟨rfl, matched, satisfied⟩⟩
    simp [none] at candidate
  · intro none
    refine List.eq_nil_iff_forall_not_mem.2 fun candidate member => ?_
    obtain ⟨entry, entryMember, made⟩ := mem_candidates.1 member
    obtain ⟨-, matched, satisfied⟩ := Candidate.of?_eq_some_iff.1 made
    exact none entry entryMember ⟨by simp [matched], by simp [satisfied]⟩

/-- The candidates whose route has a property are those of the routes with this property. -/
theorem filter_candidates (request : Request) (path : String) (entries : List RouteEntry)
    (p : RouteEntry → Bool) :
    (candidates request path entries).filter (fun candidate => p candidate.entry) =
      candidates request path (entries.filter p) := by
  unfold candidates
  rw [List.filter_filterMap, List.filterMap_filter]
  refine List.filterMap_congr fun entry _ => ?_
  cases made : Candidate.of? request path entry with
  | none => simp
  | some candidate =>
      have own : candidate.entry = entry := (Candidate.of?_eq_some_iff.1 made).1
      cases kept : p entry <;> simp [Option.filter, own, kept]

/-- The routes of the candidates are among those that were given, each as often as it was. -/
theorem map_entry_candidates (request : Request) (path : String) (entries : List RouteEntry) :
    (candidates request path entries).map (·.entry) =
      entries.filter fun entry => (Candidate.of? request path entry).isSome := by
  unfold candidates
  rw [List.map_filterMap, ← List.filterMap_eq_filter]
  refine List.filterMap_congr fun entry _ => ?_
  cases made : Candidate.of? request path entry with
  | none => simp [Option.guard, made]
  | some candidate => simp [Option.guard, made, (Candidate.of?_eq_some_iff.1 made).1]

section

variable {request : Request} {source : MatchSource} {compare : Candidate → Candidate → Ordering}
  {cs : List Candidate}

theorem mem_ranked {candidate : Candidate} : candidate ∈ ranked compare cs ↔ candidate ∈ cs :=
  List.mem_mergeSort

/-- Candidates that are ranked first are different ones, even if they are equal. -/
theorem subperm_of_ranked {best next : Candidate} {others : List Candidate}
    (sorted : ranked compare cs = best :: next :: others) : [best, next].Subperm cs := by
  have front : [best, next].Sublist (ranked compare cs) := by
    rw [sorted]
    exact (List.nil_sublist others).cons_cons next |>.cons_cons best
  exact front.subperm.trans (List.mergeSort_perm ..).subperm

theorem ranked_eq_nil_iff (compare : Candidate → Candidate → Ordering) :
    ranked compare cs = [] ↔ cs = [] := by
  simp [List.eq_nil_iff_forall_not_mem, mem_ranked]

theorem select_eq_noMatch_iff : select request source compare cs = .noMatch ↔ cs = [] := by
  rw [← ranked_eq_nil_iff compare]
  unfold select
  split
  · simp_all
  · simp_all
  · rename_i sorted
    rw [sorted]
    split
    · dsimp only
      split <;> simp
    · simp

/-- A selected route is a candidate. -/
theorem mem_of_select_handler {found : RouteMatch}
    (selected : select request source compare cs = .handler found) :
    ∃ candidate ∈ cs, found = candidate.toMatch source := by
  unfold select at selected
  split at selected
  · simp at selected
  · rename_i best sorted
    have member : best ∈ ranked compare cs := by simp [sorted]
    exact ⟨best, mem_ranked.1 member, (MatchResult.handler.inj selected).symm⟩
  · rename_i best next others sorted
    have member : best ∈ ranked compare cs := by simp [sorted]
    split at selected
    · dsimp only at selected
      split at selected <;> simp at selected
    · exact ⟨best, mem_ranked.1 member, (MatchResult.handler.inj selected).symm⟩

/-- A tie is one of two candidates, each of which counts as often as it was given. -/
theorem of_select_ambiguous {first second : String}
    (selected : select request source compare cs = .ambiguous first second) :
    ∃ best next, [best, next].Subperm cs ∧ compare best next = .eq ∧
      best.entry.handler = first ∧ next.entry.handler = second := by
  unfold select at selected
  split at selected
  · simp at selected
  · simp at selected
  · rename_i best next others sorted
    split at selected
    · rename_i tied
      dsimp only at selected
      split at selected
      · simp at selected
      · obtain ⟨rfl, rfl⟩ := MatchResult.ambiguous.inj selected
        exact ⟨best, next, subperm_of_ranked sorted, tied, rfl, rfl⟩
    · simp at selected

/-- A tie that is not reported is one of two candidates for a preflight. -/
theorem of_select_ambiguousPreflight
    (selected : select request source compare cs = .ambiguousPreflight) :
    request.isPreflight = true ∧
      ∃ best next, [best, next].Subperm cs ∧ compare best next = .eq := by
  unfold select at selected
  split at selected
  · simp at selected
  · simp at selected
  · rename_i best next others sorted
    split at selected
    · rename_i tied
      dsimp only at selected
      split at selected
      · rename_i both
        exact ⟨(Bool.and_eq_true_iff.1 both).1, best, next, subperm_of_ranked sorted, tied⟩
      · simp at selected
    · simp at selected

end

/-! ## Selections from like candidates -/

/-- The outcome with the match changed, if there is exactly one. -/
def MatchResult.mapMatch (change : RouteMatch → RouteMatch) : MatchResult → MatchResult
  | handler found => handler (change found)
  | result => result

theorem takeWhile_congr {α : Type} {p q : α → Bool} {as : List α}
    (same : ∀ a ∈ as, p a = q a) : as.takeWhile p = as.takeWhile q := by
  induction as with
  | nil => rfl
  | cons a as ih =>
      rw [List.takeWhile_cons, List.takeWhile_cons, same a List.mem_cons_self,
        ih fun b member => same b (List.mem_cons_of_mem _ member)]

/-- What a selection reads of candidates: if these are changed so that their order, handlers and
origins stay, the same one is selected. -/
theorem select_map {request : Request} {source source' : MatchSource}
    {compare compare' : Candidate → Candidate → Ordering} {cs : List Candidate}
    (f : Candidate → Candidate) {change : RouteMatch → RouteMatch}
    (order : ∀ a ∈ cs, ∀ b ∈ cs, compare a b = compare' (f a) (f b))
    (toMatch : ∀ c, (f c).toMatch source' = change (c.toMatch source))
    (handler : ∀ c, (f c).entry.handler = c.entry.handler)
    (conditions : ∀ c, (f c).conditions = c.conditions) :
    select request source' compare' (cs.map f) =
      (select request source compare cs).mapMatch change := by
  have sorted : ranked compare' (cs.map f) = (ranked compare cs).map f :=
    (List.map_mergeSort fun a ha b hb => by rw [order a ha b hb]).symm
  have order : ∀ a ∈ ranked compare cs, ∀ b ∈ ranked compare cs,
      compare a b = compare' (f a) (f b) :=
    fun a ha b hb => order a (mem_ranked.1 ha) b (mem_ranked.1 hb)
  unfold select
  rw [sorted]
  cases split : ranked compare cs with
  | nil => rfl
  | cons best others =>
      cases others with
      | nil => simp [MatchResult.mapMatch, toMatch]
      | cons next others =>
          rw [split] at order
          have tied : ((best :: next :: others).map f).takeWhile (compare' (f best) · == .eq) =
              ((best :: next :: others).takeWhile (compare best · == .eq)).map f := by
            rw [List.takeWhile_map]
            refine congrArg _ (takeWhile_congr fun candidate member => ?_)
            rw [Function.comp_apply, order best List.mem_cons_self candidate member]
          simp only [List.map_cons]
          rw [← List.map_cons, ← List.map_cons, tied, ← order best (by simp) next (by simp)]
          split
          · simp only [List.any_map, Function.comp_def, conditions]
            split
            · rfl
            · simp [MatchResult.mapMatch, handler]
          · simp [MatchResult.mapMatch, toMatch]

end RequestRouting
