import RequestRouting.Registry.Basic

/-!
# The history of a registry

A registry comes about by registrations, removals and renewals of the marks, in any order. What
holds of the empty registry and is kept by one registration, by one removal of a route and by
`finalize` holds after every history (`Lasting.after`), since batches and removals by pattern
consist of these.
-/

namespace RequestRouting
namespace Registry

/-- A property that the removal of one route does not break is not broken by the removal of
several. -/
theorem removeEach_of_remove {P : Registry → Prop} {registry : Registry} {method : Option Method}
    (remove : ∀ {registry : Registry} (id : RouteId),
      P registry → P (registry.remove id method).1)
    (ids : List RouteId) (h : P registry) : P (registry.removeEach method ids).1 := by
  induction ids generalizing registry with
  | nil => exact h
  | cons id ids ih => exact ih (remove id h)

/-- A call that changes a registry. -/
inductive Change where
  | register (definition : RouteDefinition)
  | registerBatch (definitions : List RouteDefinition)
  | unregister (pattern : String) (method : Option Method)
  | unregisterRoute (id : RouteId)
  | finalize

variable [Regex.Dialect]

/-- The registry after a call, whether it succeeds or not. -/
def change (registry : Registry) : Change → Registry
  | .register definition => (registry.register definition).1
  | .registerBatch definitions => (registry.registerBatch definitions).1
  | .unregister pattern method => (registry.unregister pattern method).1
  | .unregisterRoute id => (registry.unregisterRoute id).1
  | .finalize => registry.finalize

/-- The registry after a sequence of calls, which begins without routes. -/
def after (config : Config) (history : List Change) : Registry :=
  history.foldl change (empty config)

theorem after_append (config : Config) (history later : List Change) :
    after config (history ++ later) = later.foldl change (after config history) :=
  List.foldl_append

/-- A property of registries that no single operation breaks. -/
structure Lasting (P : Registry → Prop) : Prop where
  register : ∀ {registry} (definition : RouteDefinition),
    P registry → P (registry.register definition).1
  remove : ∀ {registry} (id : RouteId) (method : Option Method),
    P registry → P (registry.remove id method).1
  finalize : ∀ {registry}, P registry → P registry.finalize

namespace Lasting

variable {P : Registry → Prop} {registry : Registry}

theorem registerEach (lasting : Lasting P) (definitions : List RouteDefinition)
    (h : P registry) : P (Registry.registerEach definitions registry).1 := by
  induction definitions generalizing registry with
  | nil => exact h
  | cons definition definitions ih =>
      have step := lasting.register definition h
      simp only [Registry.registerEach]
      split
      · rename_i failed
        rwa [failed] at step
      · rename_i registered
        rw [registered] at step
        exact ih step

theorem registerBatch (lasting : Lasting P) (definitions : List RouteDefinition)
    (h : P registry) : P (registry.registerBatch definitions).1 := by
  have steps := lasting.registerEach definitions h
  unfold Registry.registerBatch
  split
  · rename_i registered
    rw [registered] at steps
    exact lasting.finalize steps
  · rename_i failed
    rwa [failed] at steps

theorem change (lasting : Lasting P) (call : Change) (h : P registry) :
    P (registry.change call) := by
  cases call with
  | register definition => exact lasting.register definition h
  | registerBatch definitions => exact lasting.registerBatch definitions h
  | unregister pattern method => exact removeEach_of_remove (lasting.remove · method) _ h
  | unregisterRoute id => exact lasting.remove id none h
  | finalize => exact lasting.finalize h

/-- A property that no single operation breaks is not broken by a sequence of calls. -/
theorem changes (lasting : Lasting P) (later : List Change) (h : P registry) :
    P (later.foldl Registry.change registry) := by
  induction later generalizing registry with
  | nil => exact h
  | cons call later ih => exact ih (lasting.change call h)

/-- A property of the empty registry that no single operation breaks holds after every
history. -/
theorem after {config : Config} (lasting : Lasting P) (initial : P (empty config))
    (history : List Change) : P (Registry.after config history) :=
  lasting.changes history initial

end Lasting
end Registry
end RequestRouting
