import RequestRouting.Condition.Document
import RequestRouting.Registry.Basic

/-!
# Route tables

A route table is a JSON document with a configuration and a list of routes. The conditions of a
route are members of its object.
-/

namespace RequestRouting

/-- Values in a route are kept until its own members are read, which limits how deep arrays and
objects may be nested there: to 127 with those around the route. -/
def deepestInRoute : Nat := 124

/-- Reads a route. Members that mean nothing are skipped, but they have to be readable. -/
def RouteDefinition.ofJson? (document : Json) : Option RouteDefinition := do
  let members ← document.members?
  let own := ["pattern", "method", "handler"]
  if !namedOnce own members then none
  let others := members.filter (!own.contains ·.1)
  if !others.all (fun (_, value) => value.isReadable && value.depth ≤ deepestInRoute) then none
  let pattern ← member? "pattern" Json.text? none members
  let method ← member? "method" method? (some none) members
  let handler ← member? "handler" Json.text? none members
  let conditions ← Conditions.ofMembers? others
  return { pattern, method, conditions, handler }
where
  /-- Reads a method, or null where there is none. -/
  method? : Json → Option (Option Method)
    | .null => some none
    | value => (Method.ofJson? value).map some

/-- A configuration and the routes to be registered. -/
structure RouteTable where
  config : Config
  routes : List RouteDefinition

namespace RouteTable

/-- Reads a table from an object, or from an array of configuration and routes. -/
def ofJson? : Json → Option RouteTable
  | .array [config, routes] => do
    return ⟨← Config.ofJson? config, ← Json.list? RouteDefinition.ofJson? routes⟩
  | document => do
    let members ← document.members?
    if !namedOnce ["config", "routes"] members then none
    let config ← member? "config" Config.ofJson? (some {}) members
    let routes ← member? "routes" (Json.list? RouteDefinition.ofJson?) none members
    return ⟨config, routes⟩

/-- Reads a table from a JSON text. -/
def parse? (text : String) : Option RouteTable := do
  ofJson? (← Json.parse? text)

/-- The registry of the routes of a table, ready for lookups. -/
def toRegistry [Regex.Dialect] (table : RouteTable) : Except RoutingError Registry :=
  match (Registry.empty table.config).registerBatch table.routes with
  | (registry, .ok _) => .ok registry
  | (_, .error error) => .error error

end RouteTable
end RequestRouting
