import Mathlib.Algebra.GroupWithZero.Nat
import RequestRouting.Proofs.Registry.Consistency

/-!
# What a removal leaves

A removal takes the entries that it was asked for from every store, and leaves all others in their
order (`Drops`). This is shown of one route first (`Consistent.remove_drops`) and then of routes one
after the other, so that it holds of a removal by pattern as well (`removal_of_history`). A second
removal finds nothing that it could take.
-/

namespace RequestRouting

/-- A call that removes routes: those of a pattern, for one method or for all, or the one with an
id. -/
inductive Removal where
  | ofPattern (pattern : String) (method : Option Method)
  | ofRoute (id : RouteId)

/-- Whether a call asks for the removal of an entry. -/
def Removal.takes : Removal → RouteEntry → Bool
  | ofPattern pattern method, entry =>
    entry.pattern.text == Pattern.normalize pattern && method.all (· == entry.method)
  | ofRoute id, entry => entry.id == id

namespace Registration

/-- What is left of a registration when some entries are dropped: the methods of the others, if
there are any. -/
def without? (drop : RouteEntry → Bool) (registration : Registration) : Option Registration :=
  let kept := registration.methods.filter fun method => !drop (registration.entry method)
  if kept.isEmpty then none else some { registration with methods := kept }

variable {registration left : Registration} {drop : RouteEntry → Bool}

/-- What is left lists the methods that are kept, of which there is one at least. -/
theorem without?_eq_some_iff :
    registration.without? drop = some left ↔
      left.methods ≠ [] ∧ left = { registration with
        methods := registration.methods.filter fun method =>
          !drop (registration.entry method) } := by
  unfold without?
  simp only [Option.ite_none_left_eq_some, List.isEmpty_iff, Option.some.injEq]
  constructor
  · rintro ⟨some, rfl⟩
    exact ⟨some, rfl⟩
  · rintro ⟨some, rfl⟩
    exact ⟨some, rfl⟩

theorem isLeftOf_of_without? (kept : registration.without? drop = some left) :
    left.IsLeftOf registration := by
  obtain ⟨-, rfl⟩ := without?_eq_some_iff.1 kept
  exact ⟨rfl, rfl, List.filter_sublist, rfl, rfl⟩

/-- A registration of which nothing is dropped stays as it is. -/
theorem without?_eq_self (listed : registration.methods ≠ [])
    (keeps : ∀ method ∈ registration.methods, drop (registration.entry method) = false) :
    registration.without? drop = some registration := by
  have all : (registration.methods.filter fun method => !drop (registration.entry method)) =
      registration.methods :=
    List.filter_eq_self.2 fun method member => by simp [keeps method member]
  exact without?_eq_some_iff.2 ⟨listed, by rw [all]⟩

/-- What is left depends on the registration's own entries only. -/
theorem without?_congr {other : RouteEntry → Bool}
    (same : ∀ method ∈ registration.methods,
      drop (registration.entry method) = other (registration.entry method)) :
    registration.without? drop = registration.without? other := by
  have kept : (registration.methods.filter fun method => !drop (registration.entry method)) =
      registration.methods.filter fun method => !other (registration.entry method) :=
    List.filter_congr fun method member => by rw [same method member]
  unfold without?
  rw [kept]

/-- To drop entries and then others is to drop all of them. -/
theorem without?_bind (drop other : RouteEntry → Bool) (registration : Registration) :
    (registration.without? drop).bind (·.without? other) =
      registration.without? fun entry => drop entry || other entry := by
  have twice : ∀ methods : List Method,
      (methods.filter fun method => !drop (registration.entry method)).filter
          (fun method => !other (registration.entry method)) =
        methods.filter fun method =>
          !(drop (registration.entry method) || other (registration.entry method)) := by
    intro methods
    rw [List.filter_filter]
    refine List.filter_congr fun method _ => ?_
    rw [Bool.not_or, Bool.and_comm]
  unfold without?
  dsimp only
  split
  · rename_i none
    rw [← twice, List.isEmpty_iff.1 none]
    rfl
  · rw [Option.bind_some, ← twice]
    rfl

/-- The entries of what is left are those that are not dropped. -/
theorem entries_without? (drop : RouteEntry → Bool) (registration : Registration) :
    (registration.without? drop).elim [] entries =
      registration.entries.filter fun entry => !drop entry := by
  unfold without? entries
  rw [List.filter_map]
  dsimp only
  split
  · rename_i none
    exact (congrArg (List.map registration.entry) (List.isEmpty_iff.1 none)).symm
  · rfl

end Registration

namespace Registry

variable {registry : Registry} {drop : RouteEntry → Bool}

theorem flatMap_without? (drop : RouteEntry → Bool) (registrations : List Registration) :
    (registrations.filterMap (·.without? drop)).flatMap Registration.entries =
      (registrations.flatMap Registration.entries).filter fun entry => !drop entry := by
  induction registrations with
  | nil => rfl
  | cons registration registrations ih =>
      rw [List.flatMap_cons, List.filter_append, ← Registration.entries_without?, ← ih,
        List.filterMap_cons]
      cases registration.without? drop <;> rfl

/-- To take methods away from a registration is to drop their entries. -/
theorem keep?_eq_without? {registration : Registration} (id : RouteId) (methods : List Method)
    (listed : registration.methods ≠ []) :
    keep? id methods registration =
      registration.without? fun entry => entry.id == id && methods.contains entry.method := by
  by_cases same : registration.id = id
  · have own : ∀ method, (registration.entry method).id = id := fun _ => same
    unfold keep? Registration.without?
    rw [if_pos same]
    simp only [own, beq_self_eq_true, Bool.true_and]
    rfl
  · have other : ∀ method ∈ registration.methods,
        ((registration.entry method).id == id &&
          methods.contains (registration.entry method).method) = false := by
      intro method _
      have : (registration.id == id) = false := by simpa using same
      show ((registration.id == id) && _) = false
      rw [this, Bool.false_and]
    rw [keep?, if_neg same, Registration.without?_eq_self listed other]

/-! ## Dropping entries -/

/-- Whether the outcome of a removal is the registry without the entries that are to be dropped,
with their number. All other routes stay, in their order, and nothing else changes. -/
structure Drops (registry : Registry) (drop : RouteEntry → Bool) (outcome : Registry × Nat) :
    Prop where
  registrations : outcome.1.registrations = registry.registrations.filterMap (·.without? drop)
  entries : outcome.1.fallback.entries = registry.fallback.entries.filter fun entry => !drop entry
  routes : ∀ keys, outcome.1.tree.entriesAt keys =
    (registry.tree.entriesAt keys).filter fun entry => !drop entry
  count : outcome.2 = registry.fallback.entries.countP drop
  finalized : outcome.1.tree.finalized = registry.tree.finalized
  config : outcome.1.config = registry.config
  nextId : outcome.1.nextId = registry.nextId

/-- What is counted first is not counted again. -/
theorem countP_add_countP_filter {α : Type} (p q : α → Bool) (as : List α) :
    as.countP p + (as.filter (!p ·)).countP q = as.countP fun a => p a || q a := by
  induction as with
  | nil => rfl
  | cons a as ih =>
      rw [List.countP_cons, List.countP_cons, ← ih, List.filter_cons]
      cases first : p a with
      | true => simp only [Bool.not_true, Bool.false_eq_true, ↓reduceIte, Bool.true_or]; omega
      | false =>
          simp only [Bool.not_false, ↓reduceIte, List.countP_cons, Bool.false_or,
            Bool.false_eq_true]
          omega

/-- The entries that are counted one method after the other are those of all methods. -/
theorem count_dropMethods (registration : Registration) (methods : List Method)
    (registry : Registry) :
    (dropMethods registration methods registry).2 =
      registry.fallback.entries.countP fun entry =>
        entry.id == registration.id && methods.contains entry.method := by
  induction methods generalizing registry with
  | nil => simp [dropMethods]
  | cons method methods ih =>
      have later := ih (dropMethod registration registry method).1
      have both := countP_add_countP_filter (LinearMatcher.isFor registration.id method)
        (fun entry => entry.id == registration.id && methods.contains entry.method)
        registry.fallback.entries
      calc (dropMethods registration (method :: methods) registry).2
          = registry.fallback.removable registration.id method +
              (dropMethods registration methods (dropMethod registration registry method).1).2 :=
            rfl
        _ = registry.fallback.entries.countP fun entry =>
              LinearMatcher.isFor registration.id method entry ||
                (entry.id == registration.id && methods.contains entry.method) := by
            rw [later, ← both]
            rfl
        _ = _ := by
            refine congrArg (List.countP · _) (funext fun entry => ?_)
            rw [LinearMatcher.isFor, List.contains_cons, Bool.and_or_distrib_left]

theorem finalized_dropMethods (registration : Registration) (methods : List Method)
    (registry : Registry) :
    (dropMethods registration methods registry).1.tree.finalized = registry.tree.finalized := by
  induction methods generalizing registry with
  | nil => rfl
  | cons method methods ih =>
      refine (ih (dropMethod registration registry method).1).trans ?_
      unfold dropMethod
      dsimp only
      split
      · exact PatternTree.finalized_remove ..
      · rfl

namespace Consistent

/-- Every stored entry is one of a registration. -/
theorem forall_entries (consistent : registry.Consistent) {P : RouteEntry → Prop}
    (all : ∀ registration ∈ registry.registrations, ∀ method ∈ registration.methods,
      P (registration.entry method)) : ∀ entry ∈ registry.fallback.entries, P entry := by
  intro entry present
  obtain ⟨registration, registered, method, listed, rfl⟩ := consistent.mem_entries_iff.1 present
  exact all registration registered method listed

/-- Where the registrations are those of which something is left, the other stores agree with
them. -/
theorem drops_of_registrations {outcome : Registry × Nat} (consistent : registry.Consistent)
    (consistent' : outcome.1.Consistent)
    (registrations : outcome.1.registrations = registry.registrations.filterMap (·.without? drop))
    (count : outcome.2 = registry.fallback.entries.countP drop)
    (finalized : outcome.1.tree.finalized = registry.tree.finalized)
    (config : outcome.1.config = registry.config) (nextId : outcome.1.nextId = registry.nextId) :
    registry.Drops drop outcome := by
  have entries : outcome.1.fallback.entries =
      registry.fallback.entries.filter fun entry => !drop entry := by
    rw [consistent'.entries, registrations, flatMap_without?, consistent.entries]
  refine ⟨registrations, entries, fun keys => ?_, count, finalized, config, nextId⟩
  rw [consistent'.indexed.holds.entriesAt, consistent.indexed.holds.entriesAt, entries]
  simp only [List.filter_filter]
  refine List.filter_congr fun entry _ => ?_
  cases drop entry <;> simp

/-- Nothing is dropped where no registration has an entry to be dropped. -/
theorem drops_nothing (consistent : registry.Consistent)
    (keeps : ∀ registration ∈ registry.registrations, ∀ method ∈ registration.methods,
      drop (registration.entry method) = false) : registry.Drops drop (registry, 0) := by
  refine consistent.drops_of_registrations consistent ?_ ?_ rfl rfl rfl
  · have all : registry.registrations.filterMap (·.without? drop) =
        registry.registrations.filterMap some :=
      List.filterMap_congr fun registration registered =>
        Registration.without?_eq_self (consistent.listed registration registered)
          (keeps registration registered)
    rw [all, List.filterMap_some]
  · refine (List.countP_eq_zero.2 ?_).symm
    exact consistent.forall_entries fun registration registered method listed => by
      simp [keeps registration registered method listed]

/-- What is to be dropped matters for the entries of registrations only. -/
theorem drops_congr {other : RouteEntry → Bool} {outcome : Registry × Nat}
    (consistent : registry.Consistent) (consistent' : outcome.1.Consistent)
    (drops : registry.Drops drop outcome)
    (same : ∀ registration ∈ registry.registrations, ∀ method ∈ registration.methods,
      drop (registration.entry method) = other (registration.entry method)) :
    registry.Drops other outcome := by
  refine consistent.drops_of_registrations consistent' ?_ ?_ drops.finalized drops.config
    drops.nextId
  · rw [drops.registrations]
    exact List.filterMap_congr fun registration registered =>
      Registration.without?_congr (same registration registered)
  · rw [drops.count]
    refine List.countP_congr (consistent.forall_entries ?_)
    intro registration registered method listed
    rw [same registration registered method listed]

end Consistent

/-- To drop entries and then others is to drop all of them. -/
theorem Drops.trans {other : RouteEntry → Bool} {left : Registry} {count : Nat}
    {outcome : Registry × Nat} (consistent : registry.Consistent)
    (consistent' : outcome.1.Consistent) (first : registry.Drops drop (left, count))
    (second : left.Drops other outcome) :
    registry.Drops (fun entry => drop entry || other entry) (outcome.1, count + outcome.2) := by
  refine consistent.drops_of_registrations consistent' ?_ ?_
    (second.finalized.trans first.finalized) (second.config.trans first.config)
    (second.nextId.trans first.nextId)
  · rw [second.registrations, first.registrations, List.filterMap_filterMap]
    exact List.filterMap_congr fun registration _ => Registration.without?_bind ..
  · have counted : count = registry.fallback.entries.countP drop := first.count
    show count + outcome.2 = _
    rw [second.count, counted, first.entries]
    exact countP_add_countP_filter ..

/-! ## Removals -/

/-- A removal of one route takes the entries with its id, for one method or for all. -/
theorem Consistent.remove_drops (consistent : registry.Consistent) (id : RouteId)
    (method : Option Method) :
    registry.Drops (fun entry => entry.id == id && method.all (· == entry.method))
      (registry.remove id method) := by
  cases found : registry.registration? id with
  | none =>
      have removed : registry.remove id method = (registry, 0) := by rw [Registry.remove, found]
      rw [removed]
      refine consistent.drops_nothing fun registration registered listed _ => ?_
      have other := List.find?_eq_none.1 found registration registered
      simp only [beq_iff_eq] at other
      simp [Registration.entry, other]
  | some registration =>
      have member : registration ∈ registry.registrations := List.mem_of_find?_eq_some found
      obtain rfl : registration.id = id := by simpa using List.find?_some found
      -- the methods that are taken away are those among its own that were asked for
      obtain ⟨methods, removed, asked⟩ : ∃ methods : List Method,
          registry.remove registration.id method = dropMethods registration methods
            { registry with
              registrations := forget registration.id methods registry.registrations } ∧
          ∀ listed ∈ registration.methods,
            methods.contains listed = method.all (· == listed) := by
        unfold Registry.remove
        rw [found]
        refine ⟨_, rfl, fun listed isListed => ?_⟩
        cases method with
        | none => simpa using isListed
        | some method =>
            by_cases own : method ∈ registration.methods
            · have taken : registration.methods.contains method = true := by simpa using own
              show (if _ then [method] else []).contains listed = _
              rw [if_pos taken, List.contains_cons, List.contains_nil, Bool.or_false,
                Option.all_some, Bool.beq_comm]
            · have different : method ≠ listed := fun same => own (same ▸ isListed)
              simp [own, different]
      have same : ∀ other ∈ registry.registrations, ∀ listed ∈ other.methods,
          ((other.entry listed).id == registration.id &&
              methods.contains (other.entry listed).method) =
            ((other.entry listed).id == registration.id &&
              method.all (· == (other.entry listed).method)) := by
        intro other registered listed isListed
        by_cases sameId : other.id = registration.id
        · obtain rfl := consistent.eq_of_id registered member sameId
          exact congrArg _ (asked listed isListed)
        · have notOwn : (other.id == registration.id) = false := by simpa using sameId
          show (other.id == registration.id && _) = (other.id == registration.id && _)
          rw [notOwn, Bool.false_and, Bool.false_and]
      have consistent' := consistent.remove registration.id method
      suffices drops : registry.Drops
          (fun entry => entry.id == registration.id && methods.contains entry.method)
          (registry.remove registration.id method) from
        consistent.drops_congr consistent' drops same
      rw [removed] at consistent' ⊢
      obtain ⟨config, registrations, nextId⟩ := dropMethods_frame registration methods
        { registry with registrations := forget registration.id methods registry.registrations }
      refine consistent.drops_of_registrations consistent' ?_ (count_dropMethods ..)
        (finalized_dropMethods ..) config nextId
      rw [registrations]
      exact List.filterMap_congr fun other registered =>
        keep?_eq_without? _ _ (consistent.listed other registered)

/-- Removals one after the other take the entries with any of the ids. -/
theorem Consistent.removeEach_drops (consistent : registry.Consistent) (method : Option Method)
    (ids : List RouteId) :
    registry.Drops (fun entry => ids.contains entry.id && method.all (· == entry.method))
      (registry.removeEach method ids) := by
  induction ids generalizing registry with
  | nil => exact consistent.drops_nothing fun _ _ _ _ => rfl
  | cons id ids ih =>
      have consistent' := consistent.remove id method
      have last := consistent'.removeEach method ids
      have both := (consistent.remove_drops id method).trans consistent last (ih consistent')
      refine consistent.drops_congr last both fun registration _ listed _ => ?_
      rw [List.contains_cons, Bool.and_or_distrib_right]

/-- A removal of one route by an id that is not asked for any more does nothing. -/
theorem Consistent.remove_eq_self (consistent : registry.Consistent) {id : RouteId}
    {method : Option Method}
    (gone : ∀ entry ∈ registry.fallback.entries, entry.id = id →
      method.all (· == entry.method) = false) : registry.remove id method = (registry, 0) := by
  unfold Registry.remove
  cases found : registry.registration? id with
  | none => rfl
  | some registration =>
      have member : registration ∈ registry.registrations := List.mem_of_find?_eq_some found
      obtain rfl : registration.id = id := by simpa using List.find?_some found
      have notAsked : ∀ listed ∈ registration.methods, method.all (· == listed) = false :=
        fun listed isListed => gone (registration.entry listed)
          (consistent.mem_entries_iff.2 ⟨registration, member, listed, isListed, rfl⟩) rfl
      cases method with
      | none =>
          -- a registration lists a method, and all of them were asked for
          obtain ⟨listed, isListed⟩ :=
            List.exists_mem_of_ne_nil _ (consistent.listed registration member)
          exact absurd (notAsked listed isListed) (by simp)
      | some method =>
          have notListed : method ∉ registration.methods := by
            intro isListed
            exact absurd (notAsked method isListed) (by simp)
          have kept : forget registration.id [] registry.registrations = registry.registrations := by
            have all : registry.registrations.filterMap (keep? registration.id []) =
                registry.registrations.filterMap some := by
              refine List.filterMap_congr fun other registered => ?_
              have listed := consistent.listed other registered
              rw [keep?_eq_without? _ _ listed]
              exact Registration.without?_eq_self listed fun _ _ => by simp
            rw [forget_eq, all, List.filterMap_some]
          simp [notListed, dropMethods, kept]

theorem Consistent.removeEach_eq_self (consistent : registry.Consistent) {method : Option Method}
    {ids : List RouteId}
    (gone : ∀ entry ∈ registry.fallback.entries, entry.id ∈ ids →
      method.all (· == entry.method) = false) :
    registry.removeEach method ids = (registry, 0) := by
  induction ids with
  | nil => rfl
  | cons id ids ih =>
      have first : registry.remove id method = (registry, 0) :=
        consistent.remove_eq_self fun entry present same =>
          gone entry present (same ▸ List.mem_cons_self)
      have later := ih fun entry present member =>
        gone entry present (List.mem_cons_of_mem _ member)
      rw [Registry.removeEach, first]
      show ((registry.removeEach method ids).1, 0 + (registry.removeEach method ids).2) = _
      rw [later]
      rfl

/-- A removal by pattern takes the entries of this pattern, for one method or for all. -/
theorem Consistent.unregister_drops (consistent : registry.Consistent) (pattern : String)
    (method : Option Method) :
    registry.Drops (Removal.ofPattern pattern method).takes
      (registry.unregister pattern method) := by
  have consistent' : (registry.unregister pattern method).1.Consistent :=
    consistent.removeEach method _
  refine consistent.drops_congr consistent' (consistent.removeEach_drops method _) ?_
  intro registration registered listed _
  congr 1
  -- ids tell registrations apart, so that those of the pattern are told by their ids
  rw [Bool.eq_iff_iff, List.contains_iff_mem, List.mem_map, beq_iff_eq]
  constructor
  · rintro ⟨other, member, sameId⟩
    obtain ⟨otherRegistered, text⟩ := List.mem_filter.1 member
    obtain rfl := consistent.eq_of_id otherRegistered registered sameId
    exact beq_iff_eq.1 text
  · intro text
    exact ⟨registration, List.mem_filter.2 ⟨registered, beq_iff_eq.2 text⟩, rfl⟩

/-- A second removal by the same pattern does nothing. -/
theorem Consistent.unregister_twice (consistent : registry.Consistent) (pattern : String)
    (method : Option Method) :
    let left := (registry.unregister pattern method).1
    left.unregister pattern method = (left, 0) := by
  intro left
  have drops := consistent.unregister_drops pattern method
  have consistent' : left.Consistent := consistent.removeEach method _
  refine consistent'.removeEach_eq_self fun entry present member => ?_
  obtain ⟨registration, inPattern, sameId⟩ := List.mem_map.1 member
  obtain ⟨registered, text⟩ := List.mem_filter.1 inPattern
  have own := consistent'.entry_of_id registered present sameId.symm
  rw [drops.entries] at present
  obtain ⟨-, kept⟩ := List.mem_filter.1 present
  have samePattern : (entry.pattern.text == Pattern.normalize pattern) = true := by
    rw [own]
    exact text
  simpa [Removal.takes, samePattern] using kept

/-- A removal by id takes the entries with this id. -/
theorem Consistent.remove_drops_route (consistent : registry.Consistent) (id : RouteId) :
    registry.Drops (Removal.ofRoute id).takes (registry.remove id none) := by
  refine consistent.drops_congr (consistent.remove id none) (consistent.remove_drops id none) ?_
  intro registration _ listed _
  exact Bool.and_true _

/-- A removal by id finds something exactly if the id is registered, as a registered route lists a
method. -/
theorem Consistent.unregisterRoute_iff (consistent : registry.Consistent) (id : RouteId) :
    (registry.unregisterRoute id).2 = true ↔
      ∃ registration ∈ registry.registrations, registration.id = id := by
  show ((registry.remove id none).2 != 0) = true ↔ _
  rw [bne_iff_ne, ← Nat.pos_iff_ne_zero, (consistent.remove_drops_route id).count,
    List.countP_pos_iff]
  constructor
  · rintro ⟨entry, present, taken⟩
    obtain ⟨registration, registered, method, -, rfl⟩ := consistent.mem_entries_iff.1 present
    exact ⟨registration, registered, beq_iff_eq.1 taken⟩
  · rintro ⟨registration, registered, rfl⟩
    obtain ⟨method, listed⟩ :=
      List.exists_mem_of_ne_nil _ (consistent.listed registration registered)
    exact ⟨registration.entry method,
      consistent.mem_entries_iff.2 ⟨registration, registered, method, listed, rfl⟩,
      beq_self_eq_true registration.id⟩

/-- A second removal by the same id does nothing. -/
theorem Consistent.unregisterRoute_twice (consistent : registry.Consistent) (id : RouteId) :
    let left := (registry.unregisterRoute id).1
    left.unregisterRoute id = (left, false) := by
  intro left
  have drops := consistent.remove_drops_route id
  have consistent' : left.Consistent := consistent.remove id none
  have again : left.remove id none = (left, 0) := by
    refine consistent'.remove_eq_self fun entry present same => ?_
    rw [show left.fallback.entries = _ from drops.entries] at present
    obtain ⟨-, kept⟩ := List.mem_filter.1 present
    simp [Removal.takes, same] at kept
  rw [Registry.unregisterRoute, again]
  rfl

/-! ## Counting methods -/

/-- The entries of some registrations that have a property are those of their methods. -/
theorem countP_flatMap_entries (drop : RouteEntry → Bool) (registrations : List Registration) :
    (registrations.flatMap Registration.entries).countP drop =
      (registrations.map fun registration =>
        registration.methods.countP fun method => drop (registration.entry method)).sum := by
  induction registrations with
  | nil => rfl
  | cons registration registrations ih =>
      rw [List.flatMap_cons, List.countP_append, ih, List.map_cons, List.sum_cons,
        Registration.entries, List.countP_map]
      rfl

/-- The number of entries that are dropped is that of the methods that registrations lose. -/
theorem Consistent.count_methods (consistent : registry.Consistent) {outcome : Registry × Nat}
    (drops : registry.Drops drop outcome) :
    outcome.2 = (registry.registrations.map fun registration =>
      registration.methods.countP fun method => drop (registration.entry method)).sum := by
  rw [drops.count, consistent.entries, countP_flatMap_entries]

/-- After every history a removal takes exactly the entries that it asks for, and counts the methods
that registrations lose by it. What is left of a registration stays in its place, and the second
removal of the same routes changes nothing. -/
theorem removal_of_history [Regex.Dialect] (config : Config) (history : List Change) :
    let registry := after config history
    let lost (removal : Removal) : Nat := (registry.registrations.map fun registration =>
      registration.methods.countP fun method => removal.takes (registration.entry method)).sum
    (∀ pattern method,
      let outcome := registry.unregister pattern method
      registry.Drops (Removal.ofPattern pattern method).takes outcome ∧
        outcome.2 = lost (.ofPattern pattern method) ∧
        outcome.1.unregister pattern method = (outcome.1, 0)) ∧
      ∀ id,
        let outcome := registry.unregisterRoute id
        registry.Drops (Removal.ofRoute id).takes (outcome.1, lost (.ofRoute id)) ∧
          (outcome.2 = true ↔ ∃ registration ∈ registry.registrations, registration.id = id) ∧
          outcome.1.unregisterRoute id = (outcome.1, false) := by
  intro registry lost
  have consistent : registry.Consistent := consistent_after config history
  constructor
  · intro pattern method outcome
    have drops := consistent.unregister_drops pattern method
    exact ⟨drops, consistent.count_methods drops, consistent.unregister_twice pattern method⟩
  · intro id outcome
    have drops := consistent.remove_drops_route id
    have counted : (registry.remove id none).2 = lost (.ofRoute id) :=
      consistent.count_methods drops
    refine ⟨?_, consistent.unregisterRoute_iff id, consistent.unregisterRoute_twice id⟩
    rw [← counted]
    exact drops

end Registry
end RequestRouting
