import Mathlib.Logic.Equiv.Basic
import RequestRouting.Proofs.Registry.Batch
import RequestRouting.Proofs.Registry.Lookup
import RequestRouting.Proofs.Route.Renumbering

/-!
# The order of registration

Routes that are registered in another order have other ids (`exists_renumbering`), stand in another
order among the entries of a store, and are found in the same places. Two registries with the same
routes up to ids (`Renumbers`) have the same contenders and the same leaders, up to ids and their
order, so that lookups have the same outcome (`lookup_of_permutation`).
-/

namespace RequestRouting

/-- The registration under another id. -/
def Registration.renumber (renumber : RouteId → RouteId) (registration : Registration) :
    Registration :=
  { registration with id := renumber registration.id }

/-- Under another number a definition makes the same, but for its id. -/
theorem Registration.of?_renumber [Regex.Dialect] (numbers : ℕ → ℕ) (config : Config) (number : ℕ)
    (definition : RouteDefinition) :
    of? config ⟨numbers number⟩ definition =
      (of? config ⟨number⟩ definition).map
        (Registration.renumber fun id => ⟨numbers id.number⟩) := by
  unfold of?
  split
  · rfl
  · dsimp only
    split <;> rfl

/-- Elements in another order have numbers that stand for their own. -/
theorem exists_renumbering {α : Type} {as bs : List α} (perm : as.Perm bs) (first : ℕ) :
    ∃ renumber : Equiv.Perm ℕ, (∀ n < first, renumber n = n) ∧
      (bs.zipIdx first).Perm ((as.zipIdx first).map fun numbered =>
        (numbered.1, renumber numbered.2)) := by
  induction perm generalizing first with
  | nil => exact ⟨.refl ℕ, fun _ _ => rfl, .refl _⟩
  | cons a _ ih =>
      obtain ⟨renumber, fixed, perm⟩ := ih (first + 1)
      refine ⟨renumber, fun n before => fixed n (by omega), ?_⟩
      rw [List.zipIdx_cons, List.zipIdx_cons, List.map_cons, fixed first (by omega)]
      exact perm.cons _
  | swap a b rest =>
      refine ⟨Equiv.swap first (first + 1), fun n before => ?_, ?_⟩
      · exact Equiv.swap_apply_of_ne_of_ne (by omega) (by omega)
      · simp only [List.zipIdx_cons, List.map_cons, Equiv.swap_apply_left, Equiv.swap_apply_right]
        -- behind the two that change places all keep their numbers
        have fixed : (rest.zipIdx (first + 1 + 1)).map (fun numbered =>
            (numbered.1, Equiv.swap first (first + 1) numbered.2)) = rest.zipIdx (first + 1 + 1) := by
          refine (List.map_congr_left fun numbered member => ?_).trans (List.map_id _)
          have after := List.le_snd_of_mem_zipIdx member
          rw [Equiv.swap_apply_of_ne_of_ne (by omega) (by omega), id]
        rw [fixed]
        exact .swap _ _ _
  | trans _ _ ih ih' =>
      obtain ⟨renumber, fixed, perm⟩ := ih first
      obtain ⟨renumber', fixed', perm'⟩ := ih' first
      refine ⟨renumber.trans renumber', fun n before => ?_, perm'.trans ?_⟩
      · rw [Equiv.trans_apply, fixed n before, fixed' n before]
      · have mapped := perm.map fun numbered => (numbered.1, renumber' numbered.2)
        rwa [List.map_map] at mapped

namespace Registry

variable {registry other : Registry} {renumber : RouteId → RouteId} {method : Method}
  {path : String} {request : Request}

/-- Whether a registry has the routes of another one under other ids, in any order. -/
structure Renumbers (renumber : RouteId → RouteId) (registry other : Registry) : Prop where
  registrations : other.registrations.Perm
    (registry.registrations.map (Registration.renumber renumber))
  config : other.config = registry.config

/-- No store looks at ids when it ranks candidates. -/
theorem order_renumber (renumber : RouteId → RouteId) (source : MatchSource) (path : String)
    {cs : List Candidate} : ∀ a ∈ cs, ∀ b ∈ cs, source.order path a b =
      source.order path (a.renumber renumber) (b.renumber renumber) := by
  intro a _ b _
  cases source <;> rfl

namespace Renumbers

variable (renumbers : Renumbers renumber registry other) (consistent : registry.Consistent)
  (consistent' : other.Consistent)

include renumbers consistent consistent'

/-- The entries are those of the same routes. -/
theorem entries :
    other.fallback.entries.Perm
      (registry.fallback.entries.map (RouteEntry.renumber renumber)) := by
  have same := renumbers.registrations.flatMap_right Registration.entries
  have own : ∀ registration : Registration, (registration.renumber renumber).entries =
      registration.entries.map (RouteEntry.renumber renumber) := by
    intro registration
    unfold Registration.entries
    rw [List.map_map]
    rfl
  rw [List.flatMap_map] at same
  simp only [own] at same
  rwa [consistent'.entries, consistent.entries, List.map_flatMap]

/-- The candidates among some of the entries, which are told apart without their ids, are those of
the same routes. -/
theorem candidates_filter (request : Request) (path : String) {p : RouteEntry → Bool}
    (blind : ∀ entry : RouteEntry, p (entry.renumber renumber) = p entry) :
    (candidates request path (other.fallback.entries.filter p)).Perm
      ((candidates request path (registry.fallback.entries.filter p)).map
        (Candidate.renumber renumber)) := by
  have same := ((renumbers.entries consistent consistent').filter p).filterMap
    (Candidate.of? request path)
  have kept : (registry.fallback.entries.map (RouteEntry.renumber renumber)).filter p =
      (registry.fallback.entries.filter p).map (RouteEntry.renumber renumber) := by
    rw [List.filter_map]
    exact congrArg _ (List.filter_congr fun entry _ => blind entry)
  rw [kept] at same
  rw [← candidates_renumber]
  exact same

/-- The candidates at the end of any keys are those of the same routes. -/
theorem candidates_entriesAt (request : Request) (path : String) (keys : List String) :
    (candidates request path (other.tree.root.entriesAt keys)).Perm
      ((candidates request path (registry.tree.root.entriesAt keys)).map
        (Candidate.renumber renumber)) := by
  rw [consistent.indexed.holds.entriesAt_root, consistent'.indexed.holds.entriesAt_root,
    List.filter_filter, List.filter_filter]
  exact renumbers.candidates_filter consistent consistent' request path fun _ => rfl

variable (finalized : registry.tree.finalized = true) (finalized' : other.tree.finalized = true)

include finalized finalized'

/-- The contenders are the same up to ids and their order, and come from the same store. -/
theorem contenders (method : Method) (path : String) (request : Request) :
    (other.contenders method path request).1 = (registry.contenders method path request).1 ∧
      (other.contenders method path request).2.Perm
        ((registry.contenders method path request).2.map (Candidate.renumber renumber)) := by
  obtain ⟨cs, same, there⟩ := consistent.contenders_related consistent' finalized finalized'
    renumbers.config (R := fun cs others => others.Perm (cs.map (Candidate.renumber renumber)))
    (fun _ none => List.perm_nil.1 none)
    (renumbers.candidates_entriesAt consistent consistent' request (Pattern.slashed path))
    (renumbers.candidates_filter consistent consistent' request (Pattern.slashed path)
      fun _ => rfl)
  -- there are as many contenders of the other registry
  have occupied : (registry.contenders method path request).2 ≠ [] → cs ≠ [] := by
    rintro some rfl
    exact some (List.map_eq_nil_iff.1 (List.nil_perm.1 same))
  rw [there occupied]
  exact ⟨rfl, same⟩

/-- The leaders are the same up to ids and their order. -/
theorem leaders (method : Method) (path : String) (request : Request) :
    (other.leaders method path request).Perm
      ((registry.leaders method path request).map (Candidate.renumber renumber)) := by
  obtain ⟨source, same⟩ :=
    renumbers.contenders consistent consistent' finalized finalized' method path request
  unfold Registry.leaders
  dsimp only
  rw [source]
  exact (leading_perm same).trans (.of_eq (leading_map _ (order_renumber renumber _ _)))

/-- The outcome is the same up to ids and to which of the leaders are named. -/
theorem lookup
    (weak : IsWeakOrderOn
      ((registry.contenders method path request).1.order (Pattern.slashed path))
      (registry.contenders method path request).2) :
    MatchResult.SameUpTo renumber (registry.leaders method path request)
      (registry.lookup method path request) (other.lookup method path request) := by
  obtain ⟨source, same⟩ :=
    renumbers.contenders consistent consistent' finalized finalized' method path request
  have weak' : IsWeakOrderOn
      ((other.contenders method path request).1.order (Pattern.slashed path))
      (other.contenders method path request).2 := by
    rw [source]
    exact (weak.map (order_renumber renumber _ _)).mono fun candidate => same.mem_iff.1
  rw [lookup_eq_settle weak, lookup_eq_settle weak', source]
  exact settle_renumber request _
    (renumbers.leaders consistent consistent' finalized finalized' method path request)

end Renumbers

/-! ## Registrations in another order -/

/-- Definitions that each make something are registered together, under their numbers. -/
theorem registerBatch_of_made [Regex.Dialect] {config : Config} {definitions : List RouteDefinition}
    (all : ∀ definition ∈ definitions, (Registration.of? config ⟨0⟩ definition).isSome = true) :
    ∃ registry, (empty config).registerBatch definitions =
        (registry, .ok (definitions.zipIdx.map fun numbered => ⟨numbered.2⟩)) ∧
      registry.registrations = definitions.zipIdx.filterMap (fun numbered =>
        Registration.of? config ⟨numbered.2⟩ numbered.1) ∧
      registry.config = config ∧ registry.tree.finalized = true ∧ registry.Consistent := by
  have made : ∀ definition ∈ definitions,
      (Registration.of? (empty config).config ⟨0⟩ definition).isSome = true := all
  obtain ⟨added, registered, registrations, sameConfig⟩ := registerEach_of_made made
  have batch : (empty config).registerBatch definitions =
      (added.finalize, .ok (definitions.zipIdx.map fun numbered => ⟨numbered.2⟩)) := by
    rw [registerBatch, registered]
    rfl
  have consistent := Consistent.lasting.registerBatch definitions (.empty config)
  rw [batch] at consistent
  exact ⟨added.finalize, batch, registrations, sameConfig, rfl, consistent⟩

/-- The definitions of a batch that succeeds each make something. -/
theorem made_of_registerBatch [Regex.Dialect] {config : Config} {definitions : List RouteDefinition}
    {registry : Registry} {ids : List RouteId}
    (registered : (empty config).registerBatch definitions = (registry, .ok ids)) :
    ∀ definition ∈ definitions, (Registration.of? config ⟨0⟩ definition).isSome = true := by
  obtain ⟨added, each, -⟩ := registerBatch_eq_ok_iff.1 registered
  have all := made_of_registers (registerEach_eq_ok_iff.1 each).1
  exact all

/-- Definitions beside their numbers as ids. -/
theorem zip_numbers (definitions : List RouteDefinition) :
    definitions.zip (definitions.zipIdx.map fun numbered => (⟨numbered.2⟩ : RouteId)) =
      definitions.zipIdx.map fun numbered => (numbered.1, ⟨numbered.2⟩) := by
  have pairs : (definitions.zipIdx.map Prod.fst).zip
      (definitions.zipIdx.map fun numbered => (⟨numbered.2⟩ : RouteId)) = _ := List.zip_map'
  rwa [List.zipIdx_map_fst] at pairs

/-- Definitions that are registered without error are so in any order. Each has an id that stands
for the one it had, and every lookup has the same outcome up to these ids. A tie is one of the same
leaders, of which other ones may be named. -/
theorem lookup_of_permutation [Regex.Dialect] (config : Config)
    {definitions others : List RouteDefinition} (perm : definitions.Perm others) {registry : Registry} {ids : List RouteId}
    (registered : (empty config).registerBatch definitions = (registry, .ok ids)) :
    ∃ other ids', (empty config).registerBatch others = (other, .ok ids') ∧
      ∃ renumber : RouteId → RouteId, Function.Injective renumber ∧
        (others.zip ids').Perm
          ((definitions.zip ids).map fun named => (named.1, renumber named.2)) ∧
        ∀ method path request,
          let slashed := Pattern.slashed path
          ((registry.contenders method path request).1 = .fallback →
            IsWeakOrderOn (Candidate.compareForPath slashed)
              (candidates request slashed
                (registry.fallback.entries.filter (·.method == method)))) →
          MatchResult.SameUpTo renumber (registry.leaders method path request)
              (registry.lookup method path request) (other.lookup method path request) ∧
            (other.leaders method path request).Perm
              ((registry.leaders method path request).map (Candidate.renumber renumber)) := by
  have made := made_of_registerBatch registered
  obtain ⟨same, batch, registrations, config', finalized, consistent⟩ := registerBatch_of_made made
  rw [registered] at batch
  obtain ⟨rfl, isIds⟩ := Prod.ext_iff.1 batch
  obtain rfl := Except.ok.inj isIds
  obtain ⟨other, batch', registrations', config'', finalized', consistent'⟩ :=
    registerBatch_of_made fun definition member => made definition (perm.mem_iff.2 member)
  obtain ⟨numbers, -, numbered⟩ := exists_renumbering perm 0
  let renumber (id : RouteId) : RouteId := ⟨numbers id.number⟩
  have renumbers : Renumbers renumber registry other := by
    refine ⟨?_, config''.trans config'.symm⟩
    have routes := numbered.filterMap fun numbered =>
      Registration.of? config ⟨numbered.2⟩ numbered.1
    rw [List.filterMap_map] at routes
    rw [registrations', registrations, List.map_filterMap]
    refine routes.trans (.of_eq (List.filterMap_congr fun numbered _ => ?_))
    rw [Function.comp_apply]
    dsimp only
    rw [Registration.of?_renumber numbers]
  refine ⟨other, _, batch', renumber, ?_, ?_, ?_⟩
  · intro a b same
    have numbers := numbers.injective (congrArg RouteId.number same)
    cases a
    cases b
    exact congrArg RouteId.mk numbers
  · have named := numbered.map fun numbered => (numbered.1, (⟨numbered.2⟩ : RouteId))
    rw [zip_numbers, zip_numbers, List.map_map]
    rwa [List.map_map] at named
  · intro method path request slashed assumed
    exact ⟨renumbers.lookup consistent consistent' finalized finalized'
        (weak_of_candidates assumed),
      renumbers.leaders consistent consistent' finalized finalized' method path request⟩

/-- A variable wins over a multi-segment wildcard whether it is registered before or after it. -/
theorem lookup_of_two_in_either_order :
    let strong : RouteDefinition := ⟨"/a/{x}", some .get, {}, "variable"⟩
    let weak : RouteDefinition := ⟨"/a/**", some .get, {}, "rest"⟩
    let request : Request := { method := .get, path := "/a/b" }
    let registry := ((empty {}).registerBatch [strong, weak]).1
    [strong, weak].Perm [weak, strong] ∧
      (empty {}).registerBatch [strong, weak] = (registry, .ok [⟨0⟩, ⟨1⟩]) ∧
      ∃ found ∈ (registry.lookup .get "/a/b" request).match?, found.handler = "variable" ∧
        ∃ other ids, (empty {}).registerBatch [weak, strong] = (other, .ok ids) ∧
          ∃ id, other.lookup .get "/a/b" request = .handler { found with id } := by
  intro strong weak request registry
  have perm : [strong, weak].Perm [weak, strong] := .swap _ _ _
  have succeeds : ((empty {}).registerBatch [strong, weak]).2 = .ok [⟨0⟩, ⟨1⟩] := by
    decide +kernel
  have registered : (empty {}).registerBatch [strong, weak] = (registry, .ok [⟨0⟩, ⟨1⟩]) := by
    rw [← succeeds]
  have finds : ∃ found ∈ (registry.lookup .get "/a/b" request).match?,
      found.handler = "variable" ∧ (registry.contenders .get "/a/b" request).1 = .tree := by
    decide +kernel
  obtain ⟨found, matched, handler, inTree⟩ := finds
  obtain ⟨other, ids, registered', renumber, -, -, lookups⟩ :=
    lookup_of_permutation {} perm registered
  obtain ⟨same, -⟩ := lookups .get "/a/b" request fun linear => by simp [inTree] at linear
  rw [MatchResult.match?_eq_some_iff.1 matched] at same
  refine ⟨perm, registered, found, matched, handler, other, ids, registered', renumber found.id, ?_⟩
  generalize other.lookup .get "/a/b" request = outcome at same
  cases same
  rfl

end Registry
end RequestRouting
