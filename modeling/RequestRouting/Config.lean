import RequestRouting.Json.Parser
import RequestRouting.Method

/-!
# Configuration

The settings of a registry, and how they are read from a JSON document.
-/

namespace RequestRouting

/-- Reads a method: its name, or an object whose only member has this name and is null. -/
def Method.ofJson? : Json → Option Method
  | .string (some name) => ofName? name
  | .object [(some name, .null)] => ofName? name
  | _ => none

/-- The settings of a registry. -/
structure Config where
  /-- The methods that a route is registered for if it names none. -/
  knownMethods : List Method := Method.all
  /-- Whether patterns also match their paths with a slash at the end. The pattern tree does
  not look at this. -/
  trailingSlashMatch : Bool := false
  /-- Whether the pattern tree is searched at all. -/
  usePatternTree : Bool := true
  deriving DecidableEq

namespace Config

/-- Reads the settings from an object, or from an array of their values in order. Those that
are missing have their defaults, and other members of an object do not count. -/
def ofJson? : Json → Option Config
  | .array items => do
    if items.length > 3 then none
    let methods ← item? 0 (Json.list? Method.ofJson?) Method.all items
    let slash ← item? 1 Json.bool? false items
    let tree ← item? 2 Json.bool? true items
    return ⟨methods, slash, tree⟩
  | document => do
    let members ← document.members?
    if !namedOnce ["known_methods", "trailing_slash_match", "use_pattern_tree"] members then none
    let methods ← member? "known_methods" (Json.list? Method.ofJson?) (some Method.all) members
    let slash ← member? "trailing_slash_match" Json.bool? (some false) members
    let tree ← member? "use_pattern_tree" Json.bool? (some true) members
    return ⟨methods, slash, tree⟩
where
  /-- Reads the item at a place, or takes the default if there is none. -/
  item? {α : Type} (place : Nat) (read? : Json → Option α) (default : α) (items : List Json) :
      Option α :=
    match items[place]? with
    | some item => read? item
    | none => some default

/-- Reads the settings from a JSON text. -/
def parse? (text : String) : Option Config := do
  ofJson? (← Json.parse? text)

end Config
end RequestRouting
