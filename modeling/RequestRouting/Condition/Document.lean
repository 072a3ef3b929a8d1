import RequestRouting.Condition.Basic
import RequestRouting.Json.Basic

/-!
# Conditions in documents

Conditions are members of a JSON object, each of which may be missing. Other members do not
count. They are written with all members, and expressions in their written form.
-/

namespace RequestRouting.Conditions

/-- Reads the conditions among the members of an object. -/
def ofMembers? (members : List (String × Json)) : Option Conditions := do
  if !namedOnce ["consumes", "produces", "params", "headers", "cross_origin"] members then none
  let consumes ← member? "consumes" (Json.list? Json.text?) (some []) members
  let produces ← member? "produces" (Json.list? Json.text?) (some []) members
  let params ← member? "params" (Json.list? Json.text?) (some []) members
  let headers ← member? "headers" (Json.list? Json.text?) (some []) members
  let crossOrigin ← member? "cross_origin" Json.bool? (some false) members
  return { consumes, produces, params := params.map NameValue.parse,
           headers := headers.map NameValue.parse, crossOrigin }

/-- Reads conditions from an object. -/
def ofJson? (document : Json) : Option Conditions := do
  ofMembers? (← document.members?)

/-- An array of texts. -/
def textArray (texts : List String) : Json :=
  .array (texts.map fun text => .string (some text))

/-- Writes conditions as an object. -/
def toJson (conditions : Conditions) : Json :=
  .object [(some "consumes", textArray conditions.consumes),
    (some "produces", textArray conditions.produces),
    (some "params", textArray (conditions.params.map NameValue.text)),
    (some "headers", textArray (conditions.headers.map NameValue.text)),
    (some "cross_origin", .bool conditions.crossOrigin)]

end RequestRouting.Conditions
