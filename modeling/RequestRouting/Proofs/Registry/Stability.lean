import RequestRouting.Proofs.Registry.Lookup
import RequestRouting.Proofs.Registry.Removal

/-!
# Removals that change no answer

A removal takes candidates away from where a search ends, and from where it found nothing before, so
that it ends at the same place as long as a candidate is left there (`contenders_of_drops`). A route
that was found leads alone, and goes on to do so among fewer candidates: it is found until it is
removed itself (`lookup_stable`).
-/

namespace RequestRouting

/-- The registry after a removal. -/
def Removal.apply (registry : Registry) : Removal → Registry
  | ofPattern pattern method => (registry.unregister pattern method).1
  | ofRoute id => (registry.unregisterRoute id).1

/-- A request that is answered by what is left of a route was answered by the route. -/
theorem Registration.Answers.of_isLeftOf {left registration : Registration} {method : Method}
    {path : String} {request : Request} (answers : left.Answers method path request)
    (isLeft : left.IsLeftOf registration) : registration.Answers method path request where
  listed := isLeft.methods.subset answers.listed
  matched := isLeft.pattern ▸ answers.matched
  satisfied := isLeft.conditions ▸ answers.satisfied

namespace Registry

variable {registry : Registry} {drop : RouteEntry → Bool} {outcome : Registry × Nat}
  {method : Method} {path : String} {request : Request}

theorem Consistent.apply (consistent : registry.Consistent) (removal : Removal) :
    (removal.apply registry).Consistent := by
  cases removal with
  | ofPattern pattern method => exact consistent.removeEach method _
  | ofRoute id => exact consistent.remove id none

/-- Every removal drops what it asks for. -/
theorem Consistent.apply_drops (consistent : registry.Consistent) (removal : Removal) :
    ∃ count, registry.Drops removal.takes (removal.apply registry, count) := by
  cases removal with
  | ofPattern pattern method => exact ⟨_, consistent.unregister_drops pattern method⟩
  | ofRoute id => exact ⟨_, consistent.remove_drops_route id⟩

section

variable (consistent : registry.Consistent) (consistent' : outcome.1.Consistent)
  (drops : registry.Drops drop outcome)

include consistent consistent' drops

/-- As long as one of the contenders is left, those that are left are the contenders. -/
theorem Consistent.contenders_of_drops (finalized : registry.tree.finalized = true)
    (some : ((registry.contenders method path request).2.filter
      fun candidate => !drop candidate.entry) ≠ []) :
    outcome.1.contenders method path request =
      ((registry.contenders method path request).1,
        (registry.contenders method path request).2.filter
          fun candidate => !drop candidate.entry) := by
  have linear : candidates request (Pattern.slashed path)
        (outcome.1.fallback.entries.filter (·.method == method)) =
      (candidates request (Pattern.slashed path)
        (registry.fallback.entries.filter (·.method == method))).filter
          fun candidate => !drop candidate.entry := by
    rw [filter_candidates request _ _ fun entry => !drop entry, drops.entries, List.filter_comm]
  have stored : ∀ keys, candidates request (Pattern.slashed path)
        (outcome.1.tree.root.entriesAt keys) =
      (candidates request (Pattern.slashed path) (registry.tree.root.entriesAt keys)).filter
        fun candidate => !drop candidate.entry := by
    intro keys
    rw [filter_candidates request _ _ fun entry => !drop entry]
    exact congrArg _ (drops.routes keys)
  obtain ⟨left, rfl, same⟩ := consistent.contenders_related consistent' finalized
    (drops.finalized.trans finalized) drops.config
    (R := fun cs left => left = cs.filter fun candidate => !drop candidate.entry)
    (fun _ none => none) stored linear
  exact same fun _ => some

/-- A contender whose route still lists the method is left. -/
theorem Consistent.kept_of_listed {candidate : Candidate}
    (member : candidate ∈ (registry.contenders method path request).2)
    {remaining : Registration} (isLeft : remaining ∈ outcome.1.registrations)
    (sameId : remaining.id = candidate.entry.id) (listed : method ∈ remaining.methods) :
    (!drop candidate.entry) = true := by
  obtain ⟨registration, registered, -, own, -⟩ := consistent.answers_of_contender member
  have present : remaining.entry method ∈ outcome.1.fallback.entries :=
    consistent'.mem_entries_iff.2 ⟨remaining, isLeft, method, listed, rfl⟩
  rw [drops.entries] at present
  obtain ⟨earlier, notDropped⟩ := List.mem_filter.1 present
  -- ids tell routes apart, so that the entry that is left is that of the contender
  have same : remaining.entry method = candidate.entry := by
    rw [consistent.entry_of_id registered earlier (sameId.trans (congrArg RouteEntry.id own)), own]
    rfl
  rwa [same] at notDropped

/-- A route that leads alone goes on to do so while it is left. -/
theorem Consistent.lookup_of_drops (finalized : registry.tree.finalized = true)
    (weak : IsWeakOrderOn
      ((registry.contenders method path request).1.order (Pattern.slashed path))
      (registry.contenders method path request).2)
    {found : RouteMatch} (selected : registry.lookup method path request = .handler found)
    (remains : ∃ registration ∈ outcome.1.registrations,
      registration.id = found.id ∧ method ∈ registration.methods) :
    outcome.1.lookup method path request = .handler found := by
  rw [lookup_eq_settle weak] at selected
  obtain ⟨best, alone, rfl⟩ := settle_eq_handler_iff.1 selected
  have leads : best ∈ registry.leaders method path request := by
    rw [alone]
    exact List.mem_singleton_self best
  have member : best ∈ (registry.contenders method path request).2 := (mem_leading.1 leads).1
  obtain ⟨remaining, isLeft, sameId, listed⟩ := remains
  have kept := consistent.kept_of_listed consistent' drops member isLeft sameId listed
  have contenders := consistent.contenders_of_drops consistent' drops finalized
    (List.ne_nil_of_mem (List.mem_filter.2 ⟨member, kept⟩))
  have fewer : outcome.1.leaders method path request = [best] := by
    unfold leaders at alone leads ⊢
    rw [contenders]
    dsimp only at alone leads ⊢
    rw [leading_filter weak ⟨best, leads, kept⟩, alone]
    exact List.filter_eq_self.2 fun candidate same => by rwa [List.mem_singleton.1 same]
  have weak' : IsWeakOrderOn
      ((outcome.1.contenders method path request).1.order (Pattern.slashed path))
      (outcome.1.contenders method path request).2 := by
    rw [contenders]
    exact weak.mono fun candidate => List.mem_of_mem_filter
  rw [lookup_eq_settle weak', fewer, contenders]
  rfl

/-- A request that no route answers is answered by none that is left. -/
theorem Consistent.noMatch_of_drops (selected : registry.lookup method path request = .noMatch) :
    outcome.1.lookup method path request = .noMatch := by
  rw [consistent.lookup_eq_noMatch_iff] at selected
  rw [consistent'.lookup_eq_noMatch_iff, drops.registrations]
  intro remaining registered answers
  obtain ⟨registration, earlier, kept⟩ := List.mem_filterMap.1 registered
  exact selected registration earlier
    (answers.of_isLeftOf (Registration.isLeftOf_of_without? kept))

end

/-- A finalized registry goes on to find a route, and to find none, whatever else is removed. -/
theorem lookup_stable [Regex.Dialect] (config : Config) (history : List Change)
    (finalized : (after config history).tree.finalized = true) (removal : Removal)
    (method : Method) (path : String) (request : Request) :
    let registry := after config history
    let left := removal.apply registry
    let slashed := Pattern.slashed path
    (∀ found, registry.lookup method path request = .handler found →
      (found.source = .fallback → IsWeakOrderOn (Candidate.compareForPath slashed)
        (candidates request slashed (registry.fallback.entries.filter (·.method == method)))) →
      (∃ registration ∈ left.registrations,
        registration.id = found.id ∧ method ∈ registration.methods) →
      left.lookup method path request = .handler found) ∧
      (registry.lookup method path request = .noMatch →
        left.lookup method path request = .noMatch) := by
  intro registry left slashed
  have consistent : registry.Consistent := consistent_after config history
  have consistent' : left.Consistent := consistent.apply removal
  obtain ⟨count, drops⟩ := consistent.apply_drops removal
  constructor
  · intro found selected assumed remains
    have source : found.source = (registry.contenders method path request).1 := by
      rw [lookup_eq_select] at selected
      obtain ⟨candidate, -, rfl⟩ := mem_of_select_handler selected
      rfl
    have weak := weak_of_candidates fun linear => assumed (source.trans linear)
    exact consistent.lookup_of_drops consistent' drops finalized weak selected remains
  · intro selected
    exact consistent.noMatch_of_drops consistent' drops selected

/-- A route goes on to be found when one that it ranks before is removed. -/
theorem lookup_stable_of_weaker_route :
    let registry := after {} [.register ⟨"/a/{x}", some .get, {}, "variable"⟩,
      .register ⟨"/a/**", some .get, {}, "rest"⟩, .finalize]
    let left := (Removal.ofPattern "/a/**" none).apply registry
    let request : Request := { method := .get, path := "/a/b" }
    registry.tree.finalized = true ∧
      ∃ found ∈ (registry.lookup .get "/a/b" request).match?, found.handler = "variable" ∧
        left.lookup .get "/a/b" request = .handler found := by
  intro registry left request
  have finds : ∃ found ∈ (registry.lookup .get "/a/b" request).match?,
      found.handler = "variable" ∧ found.source = .tree ∧
        ∃ registration ∈ left.registrations,
          registration.id = found.id ∧ .get ∈ registration.methods := by
    decide +kernel
  obtain ⟨found, matched, handler, source, remains⟩ := finds
  have selected : registry.lookup .get "/a/b" request = .handler found :=
    MatchResult.match?_eq_some_iff.1 matched
  refine ⟨rfl, found, matched, handler, ?_⟩
  exact (lookup_stable {} _ rfl (.ofPattern "/a/**" none) .get "/a/b" request).1 found selected
    (fun linear => absurd (source.symm.trans linear) (by decide)) remains

end Registry
end RequestRouting
