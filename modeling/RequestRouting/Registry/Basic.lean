import RequestRouting.Config
import RequestRouting.Route.Linear
import RequestRouting.Segment.Indexable
import RequestRouting.Tree.Search

/-!
# Registries

A registry holds the entries of its routes twice: the linear matcher has all of them, the
pattern tree those of the routes that it can index. A lookup asks the tree first, and the linear
matcher where the tree has no answer.
-/

namespace RequestRouting

/-- A route to be registered. Without a method it is registered for all known methods. -/
structure RouteDefinition where
  pattern : String
  method : Option Method := none
  conditions : Conditions := {}
  handler : String

/-- A route that is registered, with the methods that are left of it. -/
structure Registration where
  id : RouteId
  pattern : PathPattern
  /-- The methods that are still registered. -/
  methods : List Method
  conditions : Conditions
  handler : String
  deriving DecidableEq

namespace Registration

/-- Whether the pattern tree has the route. -/
def inTree (registration : Registration) : Bool :=
  isIndexable registration.pattern.text

/-- The entry of the route for a method. -/
def entry (registration : Registration) (method : Method) : RouteEntry :=
  ⟨registration.id, method, registration.pattern, registration.conditions,
    registration.handler⟩

/-- The entries of the route, one for each method that is left. -/
def entries (registration : Registration) : List RouteEntry :=
  registration.methods.map registration.entry

/-- The chain below which the tree has the route for a method. -/
def chain (registration : Registration) (method : Method) : Chain :=
  .ofPattern method.name registration.pattern.text

end Registration

/-- Routes with the means of finding them. -/
structure Registry where
  config : Config
  tree : PatternTree RouteEntry
  fallback : LinearMatcher
  /-- The registrations in the order of their ids. -/
  registrations : List Registration
  nextId : Nat

namespace Registry

/-- The registry without routes. -/
def empty (config : Config) : Registry :=
  ⟨config, .empty, .empty, [], 0⟩

/-- Adds the entry of a route for a method to the linear matcher and, if the tree can index the
route, to the tree. -/
def addMethod (registration : Registration) (registry : Registry) (method : Method) : Registry :=
  let entry := registration.entry method
  { registry with
    tree :=
      if registration.inTree then registry.tree.insert (registration.chain method) entry
      else registry.tree
    fallback := registry.fallback.register entry }

/-- The methods that a route is to be registered for. -/
def methodsFor (registry : Registry) (definition : RouteDefinition) : List Method :=
  match definition.method with
  | some method => [method]
  | none => registry.config.knownMethods

/-- Registers a route under a new id. The pattern has to compile, and there have to be methods
to register it for; otherwise nothing changes. -/
def register [Regex.Dialect] (registry : Registry) (definition : RouteDefinition) :
    Registry × Except RoutingError RouteId :=
  match PathPattern.compile registry.config.trailingSlashMatch definition.pattern with
  | .error error => (registry, .error error)
  | .ok pattern =>
    let methods := registry.methodsFor definition
    if methods.isEmpty then (registry, .error (.noMethods pattern.text))
    else
      let registration : Registration :=
        ⟨⟨registry.nextId⟩, pattern, methods, definition.conditions, definition.handler⟩
      let added := methods.foldl (addMethod registration) registry
      ({ added with
          registrations := registry.registrations ++ [registration]
          nextId := registry.nextId + 1 },
        .ok registration.id)

/-- Renews the marks of the tree. -/
def finalize (registry : Registry) : Registry :=
  { registry with tree := registry.tree.finalize }

/-- Registers routes one after the other, up to the first that fails. -/
def registerEach [Regex.Dialect] : List RouteDefinition → Registry →
    Registry × Except RoutingError (List RouteId)
  | [], registry => (registry, .ok [])
  | definition :: definitions, registry =>
    match registry.register definition with
    | (registry, .error error) => (registry, .error error)
    | (registry, .ok id) =>
      let (registry, ids) := registerEach definitions registry
      (registry, ids.map (id :: ·))

/-- Registers routes and renews the marks of the tree. If a route fails, those before it stay
registered, and the marks are left as they are. -/
def registerBatch [Regex.Dialect] (registry : Registry) (definitions : List RouteDefinition) :
    Registry × Except RoutingError (List RouteId) :=
  match registerEach definitions registry with
  | (registry, .ok ids) => (registry.finalize, .ok ids)
  | (registry, .error error) => (registry, .error error)

/-- Drops the entries that a registration has for a method, and counts them. -/
def dropMethod (registration : Registration) (registry : Registry) (method : Method) :
    Registry × Nat :=
  let tree :=
    if registration.inTree then
      registry.tree.remove (registration.chain method) (·.id == registration.id)
    else registry.tree
  let fallback := registry.fallback.unregister registration.id method
  ({ registry with tree, fallback }, registry.fallback.removable registration.id method)

/-- Drops the entries that a registration has for several methods, and counts them. -/
def dropMethods (registration : Registration) : List Method → Registry → Registry × Nat
  | [], registry => (registry, 0)
  | method :: methods, registry =>
    let (registry, dropped) := dropMethod registration registry method
    let (registry, others) := dropMethods registration methods registry
    (registry, dropped + others)

/-- The registration with an id. -/
def registration? (registry : Registry) (id : RouteId) : Option Registration :=
  registry.registrations.find? (·.id == id)

/-- Takes methods away from a registration, which is forgotten when it has none left. -/
def forget (id : RouteId) (methods : List Method) (registrations : List Registration) :
    List Registration :=
  registrations.filterMap fun registration =>
    if registration.id = id then
      let kept := registration.methods.filter (!methods.contains ·)
      if kept.isEmpty then none else some { registration with methods := kept }
    else some registration

/-- Removes a registration for one method or for all, and counts the entries dropped. -/
def remove (registry : Registry) (id : RouteId) (method : Option Method) : Registry × Nat :=
  match registry.registration? id with
  | none => (registry, 0)
  | some registration =>
    let methods := match method with
      | some method => if registration.methods.contains method then [method] else []
      | none => registration.methods
    dropMethods registration methods
      { registry with registrations := forget id methods registry.registrations }

/-- Removes several registrations one after the other. -/
def removeEach (method : Option Method) : List RouteId → Registry → Registry × Nat
  | [], registry => (registry, 0)
  | id :: ids, registry =>
    let (registry, dropped) := registry.remove id method
    let (registry, others) := removeEach method ids registry
    (registry, dropped + others)

/-- Removes all registrations of a pattern for one method or for all, and counts the entries
dropped. -/
def unregister (registry : Registry) (pattern : String) (method : Option Method) :
    Registry × Nat :=
  let pattern := Pattern.normalize pattern
  let ids := (registry.registrations.filter (·.pattern.text == pattern)).map (·.id)
  removeEach method ids registry

/-- Removes a registration, and says whether there was one. -/
def unregisterRoute (registry : Registry) (id : RouteId) : Registry × Bool :=
  let (registry, dropped) := registry.remove id none
  (registry, dropped != 0)

/-- The outcome for a request, of which method and path are given apart. The answer of the tree
is final; where it has none, or is not in use, the linear matcher answers. -/
def lookup (registry : Registry) (method : Method) (path : String) (request : Request) :
    MatchResult :=
  let path := Pattern.slashed path
  let indexed :=
    if registry.config.usePatternTree then
      registry.tree.lookup? (.ofRequest method.name path) request path
    else none
  match indexed with
  | some result => result
  | none => registry.fallback.lookup method path request

/-- The outcome for a request. -/
def resolve (registry : Registry) (request : Request) : MatchResult :=
  registry.lookup request.method request.path request

/-- Whether nothing is registered. -/
def isEmpty (registry : Registry) : Bool :=
  registry.registrations.isEmpty

end Registry
end RequestRouting
