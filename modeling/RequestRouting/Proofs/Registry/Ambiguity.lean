import Mathlib.Algebra.BigOperators.Group.List.Basic
import Mathlib.Algebra.GroupWithZero.Nat
import Mathlib.Data.List.Count
import RequestRouting.Proofs.Pattern.Specificity
import RequestRouting.Proofs.Registry.Lookup
import RequestRouting.Proofs.Registry.Registration

/-!
# What ties

A tie that is reported is one of two registered routes (`tie_of_history`), unless a route was
registered for a method that the configuration lists twice: then its two entries tie with each
other (`ambiguous_of_listed_twice`).
-/

namespace RequestRouting

/-- The order of candidates turned round is the opposite one. -/
theorem MatchSource.order_swap (source : MatchSource) (path : String) (a b : Candidate) :
    source.order path b a = (source.order path a b).swap := by
  have conditions : b.conditions.compare a.conditions =
      (a.conditions.compare b.conditions).swap := Std.OrientedCmp.eq_swap
  cases source with
  | tree => exact conditions
  | fallback =>
      show (_ : Ordering).then (b.conditions.compare a.conditions) = ((_ : Ordering).then _).swap
      rw [Ordering.swap_then, conditions, PathPattern.compareSpecificity_swap]
      rfl

namespace Registry

variable {registry : Registry} {registration : Registration} {method : Method} {path : String}
  {request : Request}

/-- Whether two registered routes answer a request and neither ranks before the other, by the
order of the store that answers. -/
structure Tie (registry : Registry) (method : Method) (path : String) (request : Request)
    (a b : Registration) : Prop where
  first : a.Answers method (Pattern.slashed path) request
  second : b.Answers method (Pattern.slashed path) request
  tied : ∃ c d, Candidate.of? request (Pattern.slashed path) (a.entry method) = some c ∧
    Candidate.of? request (Pattern.slashed path) (b.entry method) = some d ∧
    (registry.contenders method path request).1.order (Pattern.slashed path) c d ≠ .lt ∧
    (registry.contenders method path request).1.order (Pattern.slashed path) d c ≠ .lt

/-- The stores have a route as often as its registration lists the method. -/
theorem Consistent.count_entry (consistent : registry.Consistent)
    (registered : registration ∈ registry.registrations) (method : Method) :
    registry.fallback.entries.count (registration.entry method) =
      registration.methods.count method := by
  have own : registration.entries.count (registration.entry method) =
      registration.methods.count method := by
    refine List.count_map_of_injective _ registration.entry ?_ method
    intro a b same
    exact congrArg RouteEntry.method same
  have others : ∀ other, other ≠ registration → other ∈ registry.registrations →
      other.entries.count (registration.entry method) = 0 := by
    intro other different member
    refine List.count_eq_zero.2 fun present => different ?_
    obtain ⟨listed, -, same⟩ := Registration.mem_entries.1 present
    exact consistent.eq_of_id member registered (congrArg RouteEntry.id same)
  have distinct : registry.registrations.Nodup :=
    consistent.ascending.imp fun before same => by simp [same] at before
  rw [consistent.entries, List.count_flatMap]
  calc (registry.registrations.map
        (List.count (registration.entry method) ∘ Registration.entries)).sum
      = registry.registrations.count registration •
          registration.entries.count (registration.entry method) :=
        List.sum_map_eq_nsmul_single registration _ others
    _ = registration.methods.count method := by
        rw [List.count_eq_one_of_mem distinct registered, one_nsmul, own]

/-- Two contenders that tie are of two registered routes, or of one that lists the method twice. -/
theorem Consistent.tie_of_contenders (consistent : registry.Consistent) {best next : Candidate}
    (part : [best, next].Subperm (registry.contenders method path request).2)
    (tied : (registry.contenders method path request).1.order (Pattern.slashed path) best next =
      .eq) :
    ∃ a ∈ registry.registrations, ∃ b ∈ registry.registrations,
      a.handler = best.entry.handler ∧ b.handler = next.entry.handler ∧
      registry.Tie method path request a b ∧ (a.id = b.id → 2 ≤ a.methods.count method) := by
  obtain ⟨a, registeredA, answersA, entryA, -⟩ :=
    consistent.answers_of_contender (part.subset (by simp : best ∈ [best, next]))
  obtain ⟨b, registeredB, answersB, entryB, -⟩ :=
    consistent.answers_of_contender (part.subset (by simp : next ∈ [best, next]))
  obtain ⟨own, ownPart, -, same⟩ := consistent.contenders_eq_candidates method path request
  rw [same] at part
  have made : ∀ c ∈ [best, next], Candidate.of? request (Pattern.slashed path) c.entry = some c := by
    intro c member
    obtain ⟨entry, -, made⟩ := mem_candidates.1 (part.subset member)
    rw [(Candidate.of?_eq_some_iff.1 made).1]
    exact made
  have turned := MatchSource.order_swap (registry.contenders method path request).1
    (Pattern.slashed path) best next
  refine ⟨a, registeredA, b, registeredB, by rw [entryA]; rfl, by rw [entryB]; rfl,
    ⟨answersA, answersB, best, next, ?_, ?_, ?_, ?_⟩, fun sameId => ?_⟩
  · rw [← entryA]
    exact made best (by simp)
  · rw [← entryB]
    exact made next (by simp)
  · rw [tied]
    decide
  · rw [turned, tied]
    decide
  · obtain rfl := consistent.eq_of_id registeredA registeredB sameId
    -- the two candidates are two entries of one route for the method
    have entries : [a.entry method, a.entry method].Subperm registry.fallback.entries := by
      obtain ⟨pair, perm, within⟩ := part
      refine ⟨pair.map (·.entry), ?_, ?_⟩
      · simpa [entryA, entryB] using perm.map (·.entry)
      · have routes := within.map (·.entry)
        rw [map_entry_candidates] at routes
        exact routes.trans (List.filter_sublist.trans (ownPart.trans List.filter_sublist))
    have counted := entries.count_le (a.entry method)
    rw [consistent.count_entry registeredA] at counted
    simpa using counted

/-- After every history a tie is one of two registered routes that answer and of which neither ranks
before the other. They are two different ones, unless it is one that lists the method twice, as then
the configuration does. -/
theorem tie_of_history [Regex.Dialect] (config : Config) (history : List Change) (method : Method)
    (path : String) (request : Request) :
    let registry := after config history
    (∀ first second, registry.lookup method path request = .ambiguous first second →
      ∃ a ∈ registry.registrations, ∃ b ∈ registry.registrations,
        a.handler = first ∧ b.handler = second ∧ registry.Tie method path request a b ∧
        (a.id = b.id → 2 ≤ a.methods.count method ∧ 2 ≤ config.knownMethods.count method)) ∧
      (registry.lookup method path request = .ambiguousPreflight →
        request.isPreflight = true ∧
        ∃ a ∈ registry.registrations, ∃ b ∈ registry.registrations,
          registry.Tie method path request a b ∧
          (a.id = b.id → 2 ≤ a.methods.count method ∧ 2 ≤ config.knownMethods.count method)) := by
  intro registry
  have consistent : registry.Consistent := consistent_after config history
  have known : ∀ a ∈ registry.registrations, 2 ≤ a.methods.count method →
      2 ≤ a.methods.count method ∧ 2 ≤ config.knownMethods.count method := by
    intro a registered twice
    rcases listed_after config history a registered with part | one
    · exact ⟨twice, twice.trans (part.count_le method)⟩
    · have atMost : a.methods.count method ≤ a.methods.length := List.count_le_length
      omega
  constructor
  · intro first second selected
    rw [lookup_eq_select] at selected
    obtain ⟨best, next, part, tied, rfl, rfl⟩ := of_select_ambiguous selected
    obtain ⟨a, registeredA, b, registeredB, handlerA, handlerB, tie, twice⟩ :=
      consistent.tie_of_contenders part tied
    exact ⟨a, registeredA, b, registeredB, handlerA, handlerB, tie,
      fun same => known a registeredA (twice same)⟩
  · intro selected
    rw [lookup_eq_select] at selected
    obtain ⟨preflight, best, next, part, tied⟩ := of_select_ambiguousPreflight selected
    obtain ⟨a, registeredA, b, registeredB, -, -, tie, twice⟩ :=
      consistent.tie_of_contenders part tied
    exact ⟨preflight, a, registeredA, b, registeredB, tie,
      fun same => known a registeredA (twice same)⟩

/-- Two routes of which only the variables have other names tie. -/
theorem tie_of_two_variables :
    let registry := after {} [.register ⟨"/{x}", some .get, {}, "first"⟩,
      .register ⟨"/{y}", some .get, {}, "second"⟩, .finalize]
    let request : Request := { method := .get, path := "/a" }
    ∃ a ∈ registry.registrations, ∃ b ∈ registry.registrations,
      a.handler = "first" ∧ b.handler = "second" ∧ registry.Tie .get "/a" request a b ∧
        a.id ≠ b.id := by
  intro registry request
  have inTree : (registry.contenders .get "/a" request).1 = .tree := by decide +kernel
  have selected : registry.lookup .get "/a" request = .ambiguous "first" "second" := by
    rw [lookup_eq_settle_of_tree inTree]
    decide +kernel
  obtain ⟨a, registeredA, b, registeredB, handlerA, handlerB, tie, twice⟩ :=
    (tie_of_history {} _ .get "/a" request).1 "first" "second" selected
  refine ⟨a, registeredA, b, registeredB, handlerA, handlerB, tie, fun same => ?_⟩
  exact absurd (twice same).2 (by decide)

/-- A route that is registered for all methods ties with itself, if these are not all different. -/
theorem ambiguous_of_listed_twice :
    let registry := after { knownMethods := [.get, .get] }
      [.register ⟨"/a", none, {}, "own"⟩, .finalize]
    registry.lookup .get "/a" { method := .get, path := "/a" } = .ambiguous "own" "own" ∧
      ¬∃ a ∈ registry.registrations, ∃ b ∈ registry.registrations, a.id ≠ b.id := by
  intro registry
  have inTree : (registry.contenders .get "/a" { method := .get, path := "/a" }).1 = .tree := by
    decide +kernel
  constructor
  · rw [lookup_eq_settle_of_tree inTree]
    decide +kernel
  · decide +kernel

end Registry
end RequestRouting
