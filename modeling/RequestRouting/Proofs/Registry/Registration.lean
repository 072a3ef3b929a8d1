import RequestRouting.Proofs.Pattern.Distribution
import RequestRouting.Proofs.Registry.Consistency

/-!
# What a registration adds

A definition makes a registration of its own under an id, or none (`Registration.of?`). The call
adds what it makes behind the registrations there are, and changes nothing if it makes none
(`register_of_some`, `register_of_none`), of which the definition is the cause (`IsDueTo`). The
methods that a registration lists are one that was given, or come from the configuration
(`listed_after`).
-/

namespace RequestRouting

/-- The registration that a definition makes under an id, if its pattern compiles and there are
methods to register it for. -/
def Registration.of? [Regex.Dialect] (config : Config) (id : RouteId)
    (definition : RouteDefinition) : Option Registration :=
  match PathPattern.compile config.trailingSlashMatch definition.pattern with
  | .error _ => none
  | .ok pattern =>
    let methods := definition.method.elim config.knownMethods ([·])
    if methods.isEmpty then none
    else some ⟨id, pattern, methods, definition.conditions, definition.handler⟩

/-- What a definition makes has nothing to do with the id under which it makes it. -/
theorem Registration.of?_id [Regex.Dialect] (config : Config) (id other : RouteId)
    (definition : RouteDefinition) :
    of? config other definition = (of? config id definition).map fun registration =>
      { registration with id := other } := by
  unfold of?
  split
  · rfl
  · dsimp only
    split <;> rfl

namespace Registry

variable {registry : Registry} {definition : RouteDefinition} {registration : Registration}
  {error : RoutingError}

theorem methodsFor_eq (registry : Registry) (definition : RouteDefinition) :
    registry.methodsFor definition =
      definition.method.elim registry.config.knownMethods ([·]) := by
  unfold methodsFor
  cases definition.method <;> rfl

/-- Whether a failure is due to a definition: its pattern does not compile, or there is no method to
register it for. -/
def IsDueTo (registry : Registry) (definition : RouteDefinition) (error : RoutingError) : Prop :=
  (∃ fault, error = .invalidPattern (Pattern.normalize definition.pattern) fault) ∨
    error = .noMethods (Pattern.normalize definition.pattern) ∧ definition.method = none ∧
      registry.config.knownMethods = []

variable [Regex.Dialect]

/-- A call that fails changes nothing. -/
theorem register_of_none
    (none : Registration.of? registry.config ⟨registry.nextId⟩ definition = none) :
    ∃ error, registry.register definition = (registry, .error error) ∧
      registry.IsDueTo definition error := by
  unfold Registration.of? at none
  unfold register
  cases compiled : PathPattern.compile registry.config.trailingSlashMatch definition.pattern with
  | error error => exact ⟨error, rfl, .inl (PathPattern.of_compile_error compiled)⟩
  | ok pattern =>
      simp only [compiled, ite_eq_left_iff, reduceCtorEq, imp_false, not_not] at none
      simp only [methodsFor_eq, if_pos none]
      refine ⟨_, rfl, .inr ⟨by rw [(PathPattern.of_compile compiled).2], ?_⟩⟩
      cases given : definition.method with
      | none => exact ⟨rfl, by simpa [given] using none⟩
      | some method => simp [given] at none

/-- A call that succeeds adds one registration behind those there are. -/
theorem register_of_some
    (made : Registration.of? registry.config ⟨registry.nextId⟩ definition = some registration) :
    ∃ added, registry.register definition = (added, .ok ⟨registry.nextId⟩) ∧
      added.registrations = registry.registrations ++ [registration] ∧
      added.config = registry.config ∧ added.nextId = registry.nextId + 1 := by
  unfold Registration.of? at made
  unfold register
  cases compiled : PathPattern.compile registry.config.trailingSlashMatch definition.pattern with
  | error error => simp [compiled] at made
  | ok pattern =>
      simp only [compiled, Option.ite_none_left_eq_some, Option.some.injEq] at made
      obtain ⟨some, rfl⟩ := made
      simp only [methodsFor_eq, if_neg some]
      exact ⟨_, rfl, rfl, (foldl_addMethod ..).2.1, rfl⟩

/-- A definition gets the next id, or it fails and changes nothing. -/
theorem register_cases (registry : Registry) (definition : RouteDefinition) :
    (∃ added, registry.register definition = (added, .ok ⟨registry.nextId⟩) ∧
        added.nextId = registry.nextId + 1) ∨
      ∃ error, registry.register definition = (registry, .error error) ∧
        registry.IsDueTo definition error := by
  cases made : Registration.of? registry.config ⟨registry.nextId⟩ definition with
  | none => exact .inr (register_of_none made)
  | some registration =>
      obtain ⟨added, registered, -, -, nextId⟩ := register_of_some made
      exact .inl ⟨added, registered, nextId⟩

theorem of_register_error (failed : (registry.register definition).2 = .error error) :
    registry.register definition = (registry, .error error) ∧
      registry.IsDueTo definition error := by
  rcases registry.register_cases definition with ⟨added, registered, -⟩ | ⟨own, same, due⟩
  · rw [registered] at failed
    exact absurd failed (by simp)
  · rw [same] at failed ⊢
    obtain rfl := Except.error.inj failed
    exact ⟨rfl, due⟩

/-- Definitions one after the other add what each of them makes, under ascending ids. -/
theorem registerEach_of_made {definitions : List RouteDefinition}
    (all : ∀ definition ∈ definitions,
      (Registration.of? registry.config ⟨0⟩ definition).isSome = true) :
    ∃ added, registerEach definitions registry =
        (added, .ok ((definitions.zipIdx registry.nextId).map fun numbered => ⟨numbered.2⟩)) ∧
      added.registrations = registry.registrations ++
        (definitions.zipIdx registry.nextId).filterMap (fun numbered =>
          Registration.of? registry.config ⟨numbered.2⟩ numbered.1) ∧
      added.config = registry.config := by
  induction definitions generalizing registry with
  | nil => exact ⟨registry, rfl, (List.append_nil _).symm, rfl⟩
  | cons definition definitions ih =>
      obtain ⟨registration, made⟩ := Option.isSome_iff_exists.1 (all definition List.mem_cons_self)
      have made : Registration.of? registry.config ⟨registry.nextId⟩ definition =
          some { registration with id := ⟨registry.nextId⟩ } := by
        rw [Registration.of?_id _ ⟨0⟩, made, Option.map_some]
      obtain ⟨first, registered, registrations, config, nextId⟩ := register_of_some made
      obtain ⟨added, later, laterRegistrations, laterConfig⟩ := ih fun definition member => by
        rw [config]
        exact all definition (List.mem_cons_of_mem _ member)
      refine ⟨added, ?_, ?_, laterConfig.trans config⟩
      · rw [registerEach, registered]
        dsimp only
        rw [later, nextId, List.zipIdx_cons]
        rfl
      · rw [laterRegistrations, registrations, config, nextId, List.zipIdx_cons,
          List.filterMap_cons, made, List.append_assoc]
        rfl

/-- The methods of a registration come from the configuration, or there is one only. -/
def Listed (config : Config) (registration : Registration) : Prop :=
  registration.methods.Sublist config.knownMethods ∨ registration.methods.length ≤ 1

theorem listed_of_made {config : Config} {id : RouteId}
    (made : Registration.of? config id definition = some registration) :
    Listed config registration := by
  unfold Registration.of? at made
  split at made
  · exact absurd made (by simp)
  · simp only [Option.ite_none_left_eq_some, Option.some.injEq] at made
    obtain ⟨-, rfl⟩ := made
    cases definition.method with
    | none => exact .inl (.refl _)
    | some method => exact .inr (le_refl 1)

omit [Regex.Dialect] in
/-- What is left of a registration has methods that it had. -/
theorem Listed.of_isLeftOf {config : Config} {left : Registration}
    (listed : Listed config registration) (isLeft : left.IsLeftOf registration) :
    Listed config left := by
  rcases listed with known | one
  · exact .inl (isLeft.methods.trans known)
  · exact .inr (isLeft.methods.length_le.trans one)

/-- After every history registrations list methods of the configuration, or one only. -/
theorem listed_after (config : Config) (history : List Change) :
    ∀ registration ∈ (after config history).registrations, Listed config registration := by
  have lasting : Lasting fun registry => registry.config = config ∧
      ∀ registration ∈ registry.registrations, Listed config registration := by
    constructor
    · rintro registry definition ⟨rfl, all⟩
      cases made : Registration.of? registry.config ⟨registry.nextId⟩ definition with
      | none =>
          obtain ⟨error, failed, -⟩ := register_of_none made
          rw [failed]
          exact ⟨rfl, all⟩
      | some new =>
          obtain ⟨added, registered, registrations, config, -⟩ := register_of_some made
          rw [registered]
          refine ⟨config, fun registration member => ?_⟩
          rw [registrations] at member
          rcases List.mem_append.1 member with earlier | last
          · exact all registration earlier
          · rw [List.mem_singleton.1 last]
            exact listed_of_made made
    · rintro registry id method ⟨rfl, all⟩
      rcases registry.remove_cases id method with same | ⟨registration, methods, -, removed⟩
      · rw [same]
        exact ⟨rfl, all⟩
      · rw [removed]
        obtain ⟨config, registrations, -⟩ := dropMethods_frame registration methods
          { registry with registrations := forget id methods registry.registrations }
        refine ⟨config, ?_⟩
        rw [registrations]
        intro left member
        obtain ⟨original, earlier, kept⟩ := List.mem_filterMap.1 member
        exact (all original earlier).of_isLeftOf (isLeftOf_of_keep? kept)
    · exact fun kept => kept
  exact (lasting.after ⟨rfl, by simp [Registry.empty]⟩ history).2

end Registry
end RequestRouting
