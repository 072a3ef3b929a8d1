import RequestRouting.Proofs.Registry.Registration
import RequestRouting.Table

/-!
# Registrations that fail

A definition that cannot be registered changes nothing (`register_cases`). A batch registers its
definitions one after the other, up to the first that fails (`registerEach_eq_ok_iff`,
`registerEach_eq_error_iff`), and renews the marks of the tree only if none does
(`registration_of_history`).
-/

namespace RequestRouting
namespace Registry

variable [Regex.Dialect] {registry last : Registry} {definition failing : RouteDefinition}
  {definitions front back rest : List RouteDefinition} {ids : List RouteId} {error : RoutingError}

/-! ## Definitions one after the other -/

/-- The registry after definitions one after the other, those that fail included. -/
def registerAll (registry : Registry) (definitions : List RouteDefinition) : Registry :=
  (definitions.map .register).foldl change registry

/-- Whether definitions can be registered one after the other. -/
def Registers : List RouteDefinition → Registry → Prop
  | [], _ => True
  | definition :: definitions, registry =>
    (∃ id, (registry.register definition).2 = .ok id) ∧
      Registers definitions (registry.register definition).1

/-- The ids that come next. -/
def nextIds (registry : Registry) (count : Nat) : List RouteId :=
  (List.range' registry.nextId count).map RouteId.mk

theorem registerAll_after (config : Config) (history : List Change)
    (definitions : List RouteDefinition) :
    (after config history).registerAll definitions =
      after config (history ++ definitions.map .register) :=
  (after_append config history _).symm

/-- Behind definitions that can be registered the others follow under later ids. -/
theorem registerEach_append (registers : Registers front registry) :
    registerEach (front ++ rest) registry =
      ((registerEach rest (registry.registerAll front)).1,
        (registerEach rest (registry.registerAll front)).2.map
          (registry.nextIds front.length ++ ·)) := by
  induction front generalizing registry with
  | nil =>
      show registerEach rest registry = ((registerEach rest registry).1, Except.map id _)
      rw [Except.map_id]
      rfl
  | cons definition front ih =>
      obtain ⟨⟨id, succeeds⟩, later⟩ := registers
      rcases registry.register_cases definition with ⟨added, registered, nextId⟩ | ⟨_, failed, -⟩
      · rw [registered] at later
        have next : registry.registerAll (definition :: front) = added.registerAll front := by
          show (front.map Change.register).foldl change (registry.register definition).1 = _
          rw [registered]
          rfl
        have own : registry.nextIds (front.length + 1) =
            ⟨registry.nextId⟩ :: added.nextIds front.length := by
          rw [nextIds, nextIds, List.range'_succ, List.map_cons, nextId]
        rw [List.cons_append, registerEach, registered, next, List.length_cons, own]
        dsimp only
        rw [ih later]
        cases (registerEach rest (added.registerAll front)).2 <;> rfl
      · rw [failed] at succeeds
        exact absurd succeeds (by simp)

/-- Definitions can be registered one after the other, or there is a first that fails. -/
theorem registers_or_fails (definitions : List RouteDefinition) (registry : Registry) :
    Registers definitions registry ∨
      ∃ front failing back error, definitions = front ++ failing :: back ∧
        Registers front registry ∧
        ((registry.registerAll front).register failing).2 = .error error := by
  induction definitions generalizing registry with
  | nil => exact .inl trivial
  | cons definition definitions ih =>
      cases outcome : (registry.register definition).2 with
      | error error => exact .inr ⟨[], definition, definitions, error, rfl, trivial, outcome⟩
      | ok id =>
          rcases ih (registry.register definition).1 with
            registers | ⟨front, failing, back, error, rfl, registers, failed⟩
          · exact .inl ⟨⟨id, outcome⟩, registers⟩
          · exact .inr ⟨definition :: front, failing, back, error, rfl, ⟨⟨id, outcome⟩, registers⟩,
              failed⟩

theorem registerEach_of_registers (registers : Registers definitions registry) :
    registerEach definitions registry =
      (registry.registerAll definitions, .ok (registry.nextIds definitions.length)) := by
  have whole : registerEach (definitions ++ []) registry = _ := registerEach_append registers
  rw [List.append_nil] at whole
  rw [whole, registerEach, Except.map, List.append_nil]

theorem registerEach_of_fails (registers : Registers front registry)
    (failed : ((registry.registerAll front).register failing).2 = .error error) :
    registerEach (front ++ failing :: back) registry =
      (registry.registerAll front, .error error) := by
  rw [registerEach_append registers, registerEach, (of_register_error failed).1]
  rfl

/-- Definitions succeed together exactly if they do one after the other. They leave the registry as
if they had been registered so, and get the ids that come next. -/
theorem registerEach_eq_ok_iff :
    registerEach definitions registry = (last, .ok ids) ↔
      Registers definitions registry ∧ last = registry.registerAll definitions ∧
        ids = registry.nextIds definitions.length := by
  constructor
  · intro succeeds
    rcases registers_or_fails definitions registry with
      registers | ⟨front, failing, back, error, rfl, registers, failed⟩
    · rw [registerEach_of_registers registers] at succeeds
      obtain ⟨rfl, same⟩ := Prod.ext_iff.1 succeeds
      exact ⟨registers, rfl, (Except.ok.inj same).symm⟩
    · rw [registerEach_of_fails registers failed] at succeeds
      exact absurd (congrArg Prod.snd succeeds) (by simp)
  · rintro ⟨registers, rfl, rfl⟩
    exact registerEach_of_registers registers

/-- Definitions fail together exactly if one fails after those before it succeeded, with its error.
They leave the registry as if those before it had been registered. -/
theorem registerEach_eq_error_iff :
    registerEach definitions registry = (last, .error error) ↔
      ∃ front failing back, definitions = front ++ failing :: back ∧ Registers front registry ∧
        last = registry.registerAll front ∧ (last.register failing).2 = .error error := by
  constructor
  · intro fails
    rcases registers_or_fails definitions registry with
      registers | ⟨front, failing, back, own, rfl, registers, failed⟩
    · rw [registerEach_of_registers registers] at fails
      exact absurd (congrArg Prod.snd fails) (by simp)
    · rw [registerEach_of_fails registers failed] at fails
      obtain ⟨rfl, same⟩ := Prod.ext_iff.1 fails
      obtain rfl := Except.error.inj same
      exact ⟨front, failing, back, rfl, registers, rfl, failed⟩
  · rintro ⟨front, failing, back, rfl, registers, rfl, failed⟩
    exact registerEach_of_fails registers failed

/-- Definitions that can be registered one after the other each make something. -/
theorem made_of_registers (registers : Registers definitions registry) :
    ∀ definition ∈ definitions,
      (Registration.of? registry.config ⟨0⟩ definition).isSome = true := by
  induction definitions generalizing registry with
  | nil => exact fun definition member => absurd member List.not_mem_nil
  | cons definition definitions ih =>
      obtain ⟨⟨id, succeeds⟩, later⟩ := registers
      cases made : Registration.of? registry.config ⟨registry.nextId⟩ definition with
      | none =>
          obtain ⟨error, failed, -⟩ := register_of_none made
          rw [failed] at succeeds
          exact absurd succeeds (by simp)
      | some registration =>
          obtain ⟨added, registered, -, config, -⟩ := register_of_some made
          rw [registered] at later
          intro other member
          rcases List.mem_cons.1 member with rfl | member
          · rw [Registration.of?_id _ ⟨registry.nextId⟩, made]
            rfl
          · rw [← config]
            exact ih later other member

/-! ## Batches -/

theorem registerBatch_eq_ok_iff :
    registry.registerBatch definitions = (last, .ok ids) ↔
      ∃ added, registerEach definitions registry = (added, .ok ids) ∧ last = added.finalize := by
  unfold registerBatch
  cases each : registerEach definitions registry with
  | mk added outcome => cases outcome <;> simp [eq_comm, and_comm]

theorem registerBatch_eq_error_iff :
    registry.registerBatch definitions = (last, .error error) ↔
      registerEach definitions registry = (last, .error error) := by
  unfold registerBatch
  cases each : registerEach definitions registry with
  | mk added outcome => cases outcome <;> simp

/-- After every history a definition that fails changes nothing. A batch succeeds exactly if its
definitions do one after the other: they get the ids that come next, and the marks are renewed
behind them. Otherwise it fails with the first definition that does, whose error it has, and leaves
those before it registered and the marks as they were. A table makes the batch of its routes. -/
theorem registration_of_history (config : Config) (history : List Change) :
    let registry := after config history
    (∀ definition error, (registry.register definition).2 = .error error →
        registry.register definition = (registry, .error error) ∧
          registry.IsDueTo definition error) ∧
      (∀ definitions last ids, registry.registerBatch definitions = (last, .ok ids) ↔
        Registers definitions registry ∧ ids = registry.nextIds definitions.length ∧
          last = after config (history ++ definitions.map .register ++ [.finalize])) ∧
      (∀ definitions last error, registry.registerBatch definitions = (last, .error error) ↔
        ∃ front failing back, definitions = front ++ failing :: back ∧
          Registers front registry ∧ last = after config (history ++ front.map .register) ∧
          (last.register failing).2 = .error error) ∧
      ∀ table : RouteTable,
        (∀ loaded, table.toRegistry = .ok loaded ↔
          ∃ ids, (empty table.config).registerBatch table.routes = (loaded, .ok ids)) ∧
        ∀ error, table.toRegistry = .error error ↔
          ∃ left, (empty table.config).registerBatch table.routes = (left, .error error) := by
  intro registry
  refine ⟨fun definition error => of_register_error, ?_, ?_, ?_⟩
  · intro definitions last ids
    rw [after_append, ← registerAll_after, registerBatch_eq_ok_iff]
    simp only [registerEach_eq_ok_iff]
    constructor
    · rintro ⟨added, ⟨registers, rfl, rfl⟩, rfl⟩
      exact ⟨registers, rfl, rfl⟩
    · rintro ⟨registers, rfl, rfl⟩
      exact ⟨_, ⟨registers, rfl, rfl⟩, rfl⟩
  · intro definitions last error
    simp only [← registerAll_after]
    exact registerBatch_eq_error_iff.trans registerEach_eq_error_iff
  · intro table
    unfold RouteTable.toRegistry
    cases batch : (empty table.config).registerBatch table.routes with
    | mk made outcome => cases outcome <;> simp

end Registry
end RequestRouting
