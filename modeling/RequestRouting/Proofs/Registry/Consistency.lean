import RequestRouting.Proofs.Registry.History
import RequestRouting.Proofs.Tree.Contents

/-!
# The stores of a registry agree

A registry keeps its routes three times: as registrations, as entries of the linear matcher, and
below the nodes of the tree. `Consistent` ties the three together. It holds after every history,
so that, once the marks are renewed, nothing but the registrations that are left tells one
registry from another (`stores_of_history`).
-/

namespace RequestRouting

/-- Whether a registration is what is left of another one: some of its methods may be gone. -/
structure Registration.IsLeftOf (registration earlier : Registration) : Prop where
  id : registration.id = earlier.id
  pattern : registration.pattern = earlier.pattern
  methods : registration.methods.Sublist earlier.methods
  conditions : registration.conditions = earlier.conditions
  handler : registration.handler = earlier.handler

theorem Registration.IsLeftOf.refl (registration : Registration) :
    registration.IsLeftOf registration :=
  ⟨rfl, rfl, .refl _, rfl, rfl⟩

theorem Registration.IsLeftOf.trans {a b c : Registration} (ab : a.IsLeftOf b)
    (bc : b.IsLeftOf c) : a.IsLeftOf c :=
  ⟨ab.id.trans bc.id, ab.pattern.trans bc.pattern, ab.methods.trans bc.methods,
    ab.conditions.trans bc.conditions, ab.handler.trans bc.handler⟩

theorem Registration.mem_entries {registration : Registration} {entry : RouteEntry} :
    entry ∈ registration.entries ↔
      ∃ method ∈ registration.methods, registration.entry method = entry := by
  simp [entries]

namespace Registry

variable {registry : Registry} {registration : Registration}

/-! ## The tree beside the linear matcher -/

/-- The tree of a registry has the entries of the linear matcher that it can index, and its
marks are right if it is said to be finalized. -/
structure Indexed (registry : Registry) : Prop where
  holds : registry.tree.Holds (registry.fallback.entries.filter (·.isIndexed))
  marked : registry.tree.finalized = true → registry.tree.root.Marked

theorem Indexed.finalize (indexed : registry.Indexed) : registry.finalize.Indexed where
  holds := indexed.holds.finalize
  marked _ := Node.marked_finalize _

theorem Indexed.addMethod (indexed : registry.Indexed) (method : Method) :
    (Registry.addMethod registration registry method).Indexed := by
  have added : (registry.fallback.entries ++ [registration.entry method]).filter (·.isIndexed) =
      registry.fallback.entries.filter (·.isIndexed) ++
        if registration.inTree then [registration.entry method] else [] := by
    rw [List.filter_append, List.filter_cons]
    rfl
  by_cases inTree : registration.inTree = true
  · refine ⟨?_, ?_⟩
    · simp only [Registry.addMethod, LinearMatcher.register, inTree, ↓reduceIte, added]
      exact indexed.holds.insert (registration.entry method)
    · simp [Registry.addMethod, inTree, PatternTree.insert]
  · refine ⟨?_, ?_⟩
    · simp only [Registry.addMethod, LinearMatcher.register, inTree, Bool.false_eq_true,
        ↓reduceIte, added, List.append_nil]
      exact indexed.holds
    · simpa [Registry.addMethod, inTree] using indexed.marked

/-- What the registration of a route for some methods changes. -/
theorem foldl_addMethod (registration : Registration) (methods : List Method)
    (registry : Registry) :
    let added := methods.foldl (addMethod registration) registry
    added.fallback.entries = registry.fallback.entries ++ methods.map registration.entry ∧
      added.config = registry.config ∧ (registry.Indexed → added.Indexed) := by
  induction methods generalizing registry with
  | nil => simp
  | cons method methods ih =>
      obtain ⟨entries, config, indexed⟩ := ih (addMethod registration registry method)
      refine ⟨?_, config, fun h => indexed (h.addMethod method)⟩
      rw [List.foldl_cons, entries]
      simp [addMethod, LinearMatcher.register]

/-- A route for a method is removed from the place in the tree where it was inserted, and the
entries of other methods stand at other places. -/
theorem Indexed.dropMethod (indexed : registry.Indexed) (method : Method)
    (own : ∀ entry ∈ registry.fallback.entries,
      entry.id = registration.id → entry.pattern = registration.pattern) :
    (Registry.dropMethod registration registry method).1.Indexed := by
  by_cases inTree : registration.inTree = true
  · refine ⟨?_, ?_⟩
    · have removed := indexed.holds.remove (registration.chain method) (·.id == registration.id)
      simp only [Registry.dropMethod, LinearMatcher.unregister, inTree, ↓reduceIte]
      convert removed using 1
      rw [List.filter_filter, List.filter_filter]
      refine List.filter_congr fun entry member => ?_
      -- the matcher drops by id and method, the tree by id below one chain: for entries of this
      -- route the chain tells the method
      by_cases sameId : entry.id = registration.id
      · have chain : entry.chain = .ofPattern entry.method.name registration.pattern.text := by
          rw [RouteEntry.chain, own entry member sameId]
        have sameMethod :
            PatternTree.keys entry.chain = PatternTree.keys (registration.chain method) ↔
              entry.method = method := by
          constructor
          · intro same
            rw [chain, Registration.chain, PatternTree.keys, PatternTree.keys, segments_ofPattern,
              segments_ofPattern] at same
            exact Method.name_injective (by simpa [Segment.literal] using (List.cons.inj same).1)
          · rintro rfl
            rw [chain, Registration.chain]
        by_cases method : entry.method = method <;>
          simp [LinearMatcher.isFor, sameId, sameMethod, method, Bool.and_comm]
      · have other : (entry.id == registration.id) = false := by simpa using sameId
        simp [LinearMatcher.isFor, other, Bool.and_comm]
    · simp only [Registry.dropMethod, inTree, ↓reduceIte, PatternTree.finalized_remove,
        PatternTree.root_remove]
      exact fun finalized => Node.marked_remove indexed.holds.ordered (indexed.marked finalized)
  · -- no entry of the route is in the tree, so that the matcher drops none that is
    refine ⟨?_, ?_⟩
    · simp only [Registry.dropMethod, LinearMatcher.unregister, inTree, Bool.false_eq_true,
        ↓reduceIte]
      convert indexed.holds using 1
      rw [List.filter_filter]
      refine List.filter_congr fun entry member => ?_
      by_cases sameId : entry.id = registration.id
      · have : entry.isIndexed = false := by
          rw [RouteEntry.isIndexed, own entry member sameId]
          simpa [Registration.inTree] using inTree
        simp [this]
      · have other : (entry.id == registration.id) = false := by simpa using sameId
        simp [LinearMatcher.isFor, other]
    · simpa [Registry.dropMethod, inTree] using indexed.marked

/-- The removal of a route for some methods leaves everything but its entries alone. -/
theorem dropMethods_frame (registration : Registration) (methods : List Method)
    (registry : Registry) :
    let left := (dropMethods registration methods registry).1
    left.config = registry.config ∧ left.registrations = registry.registrations ∧
      left.nextId = registry.nextId := by
  induction methods generalizing registry with
  | nil => exact ⟨rfl, rfl, rfl⟩
  | cons method methods ih => exact ih (dropMethod registration registry method).1

/-- What the removal of a route for some methods drops. -/
theorem dropMethods_spec (registration : Registration) (methods : List Method)
    (registry : Registry)
    (own : ∀ entry ∈ registry.fallback.entries,
      entry.id = registration.id → entry.pattern = registration.pattern) :
    let left := (dropMethods registration methods registry).1
    left.fallback.entries = registry.fallback.entries.filter (fun entry =>
        !(entry.id == registration.id && methods.contains entry.method)) ∧
      (registry.Indexed → left.Indexed) := by
  induction methods generalizing registry with
  | nil => simp [dropMethods]
  | cons method methods ih =>
      obtain ⟨entries, indexed⟩ := ih (dropMethod registration registry method).1
        fun entry member => own entry (List.mem_of_mem_filter member)
      refine ⟨?_, fun h => indexed (h.dropMethod method own)⟩
      refine entries.trans ?_
      simp only [dropMethod, LinearMatcher.unregister, List.filter_filter]
      refine List.filter_congr fun entry _ => ?_
      by_cases sameId : entry.id = registration.id <;>
        by_cases sameMethod : entry.method = method <;>
          simp [LinearMatcher.isFor, sameId, sameMethod]

/-! ## The registrations that are left -/

/-- What `forget` leaves of a registration. -/
def keep? (id : RouteId) (methods : List Method) (registration : Registration) :
    Option Registration :=
  if registration.id = id then
    let kept := registration.methods.filter (!methods.contains ·)
    if kept.isEmpty then none else some { registration with methods := kept }
  else some registration

theorem forget_eq (id : RouteId) (methods : List Method) (registrations : List Registration) :
    forget id methods registrations = registrations.filterMap (keep? id methods) := rfl

variable {id : RouteId} {methods : List Method} {left : Registration}

theorem isLeftOf_of_keep? (kept : keep? id methods registration = some left) :
    left.IsLeftOf registration := by
  unfold keep? at kept
  split at kept
  · simp only [Option.ite_none_left_eq_some, Option.some.injEq] at kept
    obtain ⟨-, rfl⟩ := kept
    exact ⟨rfl, rfl, List.filter_sublist, rfl, rfl⟩
  · exact Option.some.inj kept ▸ .refl _

theorem methods_of_keep? (kept : keep? id methods registration = some left)
    (listed : registration.methods ≠ []) : left.methods ≠ [] := by
  unfold keep? at kept
  split at kept
  · simp only [Option.ite_none_left_eq_some, List.isEmpty_iff, Option.some.injEq] at kept
    obtain ⟨some, rfl⟩ := kept
    exact some
  · exact Option.some.inj kept ▸ listed

theorem entries_keep? (id : RouteId) (methods : List Method) (registration : Registration) :
    (keep? id methods registration).elim [] Registration.entries =
      registration.entries.filter fun entry =>
        !(entry.id == id && methods.contains entry.method) := by
  unfold keep? Registration.entries
  rw [List.filter_map]
  by_cases same : registration.id = id
  · have own : ((fun entry : RouteEntry => !(entry.id == id && methods.contains entry.method)) ∘
        registration.entry) = (!methods.contains ·) := by
      funext method
      simp [Registration.entry, same]
    rw [if_pos same, own]
    dsimp only
    split
    · rename_i none
      exact (congrArg (List.map registration.entry) (List.isEmpty_iff.1 none)).symm
    · rfl
  · have other : (registration.id == id) = false := by simpa using same
    rw [if_neg same]
    simp [Function.comp_def, Registration.entry, other]

/-- The entries of the registrations that are left are those that are not dropped. -/
theorem flatMap_forget (id : RouteId) (methods : List Method) (registrations : List Registration) :
    (forget id methods registrations).flatMap Registration.entries =
      (registrations.flatMap Registration.entries).filter fun entry =>
        !(entry.id == id && methods.contains entry.method) := by
  rw [forget_eq]
  induction registrations with
  | nil => rfl
  | cons registration registrations ih =>
      rw [List.flatMap_cons, List.filter_append, ← entries_keep?, ← ih, List.filterMap_cons]
      cases keep? id methods registration <;> rfl

/-- A removal does nothing, or it takes some methods away from a registration. -/
theorem remove_cases (registry : Registry) (id : RouteId) (method : Option Method) :
    (registry.remove id method).1 = registry ∨
      ∃ registration methods, registry.registration? id = some registration ∧
        (registry.remove id method).1 = (dropMethods registration methods
          { registry with registrations := forget id methods registry.registrations }).1 := by
  unfold remove
  split
  · exact .inl rfl
  · rename_i registration found
    exact .inr ⟨registration, _, found, rfl⟩

/-! ## Consistent registries -/

/-- A registry whose stores agree. -/
structure Consistent (registry : Registry) : Prop where
  /-- The linear matcher has one entry for each method that a registration lists. -/
  entries : registry.fallback.entries = registry.registrations.flatMap Registration.entries
  indexed : registry.Indexed
  ascending : registry.registrations.Pairwise fun a b => a.id.number < b.id.number
  below : ∀ registration ∈ registry.registrations, registration.id.number < registry.nextId
  listed : ∀ registration ∈ registry.registrations, registration.methods ≠ []
  compiled : ∀ registration ∈ registry.registrations, ∃ text,
    registration.pattern.MadeFrom registry.config.trailingSlashMatch text

namespace Consistent

/-- A registration is the only one with its id. -/
theorem eq_of_id (consistent : registry.Consistent) {a b : Registration}
    (ha : a ∈ registry.registrations) (hb : b ∈ registry.registrations) (same : a.id = b.id) :
    a = b := by
  have distinct : (registry.registrations.map (·.id)).Nodup :=
    List.pairwise_map.2 (consistent.ascending.imp fun before same => by simp [same] at before)
  exact List.inj_on_of_nodup_map distinct ha hb same

theorem mem_entries_iff (consistent : registry.Consistent) {entry : RouteEntry} :
    entry ∈ registry.fallback.entries ↔
      ∃ registration ∈ registry.registrations, ∃ method ∈ registration.methods,
        registration.entry method = entry := by
  simp [consistent.entries, List.mem_flatMap, Registration.mem_entries]

/-- The entries of a route are those of its registration. -/
theorem entry_of_id (consistent : registry.Consistent)
    (member : registration ∈ registry.registrations) {entry : RouteEntry}
    (present : entry ∈ registry.fallback.entries) (same : entry.id = registration.id) :
    entry = registration.entry entry.method := by
  obtain ⟨owner, ownerMember, method, -, rfl⟩ := consistent.mem_entries_iff.1 present
  rw [consistent.eq_of_id ownerMember member same]
  rfl

/-- A registration is found by its id. -/
theorem registration?_eq_some (consistent : registry.Consistent)
    (member : registration ∈ registry.registrations) :
    registry.registration? registration.id = some registration := by
  cases found : registry.registration? registration.id with
  | none =>
      have missing := List.find?_eq_none.1 found registration member
      simp at missing
  | some other =>
      have same : other.id = registration.id := by simpa using List.find?_some found
      rw [consistent.eq_of_id (List.mem_of_find?_eq_some found) member same]

theorem empty (config : Config) : (Registry.empty config).Consistent where
  entries := rfl
  indexed := ⟨.empty, fun _ => .intro rfl (by simp [Registry.empty, PatternTree.empty, Node.new])⟩
  ascending := .nil
  below := by simp [Registry.empty]
  listed := by simp [Registry.empty]
  compiled := by simp [Registry.empty]

/-- A new route has the largest id, so that its entries are the last ones. -/
theorem register [Regex.Dialect] (consistent : registry.Consistent) (definition : RouteDefinition) :
    (registry.register definition).1.Consistent := by
  unfold Registry.register
  split
  · exact consistent
  · rename_i pattern compiled
    dsimp only
    split
    · exact consistent
    · rename_i some
      obtain ⟨entries, config, indexed⟩ := foldl_addMethod
        ⟨⟨registry.nextId⟩, pattern, registry.methodsFor definition, definition.conditions,
          definition.handler⟩ (registry.methodsFor definition) registry
      constructor
      · simp [entries, consistent.entries, Registration.entries]
      · exact ⟨(indexed consistent.indexed).holds, (indexed consistent.indexed).marked⟩
      · refine List.pairwise_append.2 ⟨consistent.ascending, List.pairwise_singleton .., ?_⟩
        intro earlier member new last
        rw [List.mem_singleton.1 last]
        exact consistent.below earlier member
      · intro registration member
        rcases List.mem_append.1 member with earlier | last
        · exact Nat.lt_succ_of_lt (consistent.below registration earlier)
        · rw [List.mem_singleton.1 last]
          exact Nat.lt_succ_self _
      · intro registration member
        rcases List.mem_append.1 member with earlier | last
        · exact consistent.listed registration earlier
        · rw [List.mem_singleton.1 last]
          simpa using some
      · intro registration member
        rw [show ({ (List.foldl _ _ _ : Registry) with .. } : Registry).config = _ from config]
        rcases List.mem_append.1 member with earlier | last
        · exact consistent.compiled registration earlier
        · rw [List.mem_singleton.1 last]
          exact ⟨_, PathPattern.of_compile compiled⟩

/-- A removal drops the same entries from the linear matcher as from the registration. -/
theorem remove (consistent : registry.Consistent) (id : RouteId) (method : Option Method) :
    (registry.remove id method).1.Consistent := by
  rcases registry.remove_cases id method with same | ⟨registration, methods, found, removed⟩
  · rwa [same]
  · rw [removed]
    have member : registration ∈ registry.registrations := List.mem_of_find?_eq_some found
    have sameId : registration.id = id := by simpa using List.find?_some found
    obtain ⟨config, registrations, nextId⟩ := dropMethods_frame registration methods
      { registry with registrations := forget id methods registry.registrations }
    obtain ⟨entries, indexed⟩ := dropMethods_spec registration methods
      { registry with registrations := forget id methods registry.registrations }
      fun entry present same => by rw [consistent.entry_of_id member present same]; rfl
    have earlier : ∀ left ∈ forget id methods registry.registrations,
        ∃ registration ∈ registry.registrations, keep? id methods registration = some left :=
      fun left member => List.mem_filterMap.1 member
    constructor
    · rw [entries, registrations, flatMap_forget, consistent.entries, sameId]
    · exact indexed ⟨consistent.indexed.holds, consistent.indexed.marked⟩
    · rw [registrations]
      refine List.pairwise_filterMap.2 (consistent.ascending.imp ?_)
      intro a b before left kept left' kept'
      rwa [(isLeftOf_of_keep? kept).id, (isLeftOf_of_keep? kept').id]
    · rw [registrations, nextId]
      intro left leftMember
      obtain ⟨registration, member, kept⟩ := earlier left leftMember
      rw [(isLeftOf_of_keep? kept).id]
      exact consistent.below registration member
    · rw [registrations]
      intro left leftMember
      obtain ⟨registration, member, kept⟩ := earlier left leftMember
      exact methods_of_keep? kept (consistent.listed registration member)
    · rw [registrations, config]
      intro left leftMember
      obtain ⟨registration, member, kept⟩ := earlier left leftMember
      rw [(isLeftOf_of_keep? kept).pattern]
      exact consistent.compiled registration member

theorem removeEach (consistent : registry.Consistent) (method : Option Method)
    (ids : List RouteId) : (registry.removeEach method ids).1.Consistent :=
  removeEach_of_remove (fun id consistent => consistent.remove id method) ids consistent

theorem finalize (consistent : registry.Consistent) : registry.finalize.Consistent :=
  { consistent with indexed := consistent.indexed.finalize }

theorem lasting [Regex.Dialect] : Lasting Consistent where
  register definition consistent := consistent.register definition
  remove id method consistent := consistent.remove id method
  finalize consistent := consistent.finalize

end Consistent

/-- The stores of a registry agree after every history. -/
theorem consistent_after [Regex.Dialect] (config : Config) (history : List Change) :
    (after config history).Consistent :=
  Consistent.lasting.after (.empty config) history

/-- No call changes the configuration. -/
theorem config_after [Regex.Dialect] (config : Config) (history : List Change) :
    (after config history).config = config := by
  have lasting : Lasting fun registry => registry.config = config := by
    refine ⟨fun {registry} definition same => ?_, fun {registry} id method same => ?_,
      fun same => same⟩
    · unfold register
      split
      · exact same
      · dsimp only
        split
        · exact same
        · exact (foldl_addMethod _ _ registry).2.1.trans same
    · rcases remove_cases registry id method with nothing | ⟨registration, methods, -, dropped⟩
      · rwa [nothing]
      · rw [dropped]
        exact (dropMethods_frame registration methods _).1.trans same
  exact lasting.after rfl history

/-! ## Histories that go on -/

/-- What a registry becomes later: ids that were given out stay with their routes, of which
methods may go. -/
structure Continues (earlier registry : Registry) : Prop where
  nextId : earlier.nextId ≤ registry.nextId
  old : ∀ registration ∈ registry.registrations, registration.id.number < earlier.nextId →
    ∃ original ∈ earlier.registrations, registration.IsLeftOf original

theorem Continues.refl (registry : Registry) : registry.Continues registry :=
  ⟨le_refl _, fun registration member _ => ⟨registration, member, .refl _⟩⟩

theorem Continues.lasting [Regex.Dialect] (earlier : Registry) : Lasting earlier.Continues where
  register {registry} definition continues := by
    unfold Registry.register
    split
    · exact continues
    · dsimp only
      split
      · exact continues
      · refine ⟨Nat.le_succ_of_le continues.nextId, ?_⟩
        intro registration member old
        rcases List.mem_append.1 member with member | new
        · exact continues.old registration member old
        · -- the id of a new route was not given out earlier
          rw [List.mem_singleton.1 new] at old
          exact absurd continues.nextId (Nat.not_le.2 old)
  remove {registry} id method continues := by
    rcases registry.remove_cases id method with same | ⟨registration, methods, -, removed⟩
    · rwa [same]
    · rw [removed]
      obtain ⟨-, registrations, nextId⟩ := dropMethods_frame registration methods
        { registry with registrations := forget id methods registry.registrations }
      refine ⟨continues.nextId.trans_eq nextId.symm, ?_⟩
      rw [registrations]
      intro left member old
      obtain ⟨registration, earlierMember, kept⟩ := List.mem_filterMap.1 member
      have isLeft := isLeftOf_of_keep? kept
      obtain ⟨original, originalMember, before⟩ :=
        continues.old registration earlierMember (isLeft.id ▸ old)
      exact ⟨original, originalMember, isLeft.trans before⟩
  finalize continues := ⟨continues.nextId, continues.old⟩

/-- The stores of a registry tell the same routes after every history. Nothing but the
registrations that are left can be seen from its linear matcher and its tree, once the marks of
the tree are renewed. -/
theorem stores_of_history [Regex.Dialect] (config : Config) (history : List Change) :
    let registry := after config history
    registry.fallback.entries = registry.registrations.flatMap Registration.entries ∧
      (∀ registration ∈ registry.registrations, registration.methods ≠ []) ∧
      (registry.registrations.Pairwise fun a b => a.id.number < b.id.number) ∧
      (∀ registration ∈ registry.registrations, registration.id.number < registry.nextId) ∧
      (∀ later, registry.Continues (after config (history ++ later))) ∧
      registry.finalize.tree =
        PatternTree.ofEntries (registry.fallback.entries.filter (·.isIndexed)) ∧
      ∀ other otherHistory, (after other otherHistory).registrations = registry.registrations →
        (after other otherHistory).fallback = registry.fallback ∧
          (after other otherHistory).finalize.tree = registry.finalize.tree := by
  intro registry
  have consistent : registry.Consistent := consistent_after config history
  refine ⟨consistent.entries, consistent.listed, consistent.ascending, consistent.below, ?_, ?_, ?_⟩
  · intro later
    rw [after_append]
    exact (Continues.lasting registry).changes later (.refl registry)
  · exact consistent.indexed.holds.finalize_eq_ofEntries
  · intro other otherHistory same
    have consistent' := consistent_after other otherHistory
    have entries : (after other otherHistory).fallback.entries = registry.fallback.entries := by
      rw [consistent'.entries, consistent.entries, same]
    refine ⟨congrArg LinearMatcher.mk entries, ?_⟩
    have holds := consistent'.indexed.holds
    rw [entries] at holds
    exact holds.finalize_eq consistent.indexed.holds

end Registry
end RequestRouting
