/-!
# JSON documents

The tree of a JSON text, with the members of objects in their order and repeated names kept, so
that a reader can refuse them. A string may hold an escape that denotes no character, and a
number may be too large for a floating-point number; such values can be skipped but not read.
-/

namespace RequestRouting

/-- A JSON value. -/
inductive Json where
  | null
  | bool (value : Bool)
  /-- A number, and whether a floating-point number can hold it. -/
  | number (finite : Bool)
  /-- A string, or `none` if an escape in it denotes no character. -/
  | string (text : Option String)
  | array (items : List Json)
  | object (members : List (Option String × Json))

namespace Json

mutual
/-- How deep arrays and objects are nested in a value. -/
def depth : Json → Nat
  | array items => depthOfItems items + 1
  | object members => depthOfMembers members + 1
  | _ => 0

/-- The greatest depth of several values. -/
def depthOfItems : List Json → Nat
  | [] => 0
  | item :: items => max item.depth (depthOfItems items)

/-- The greatest depth of the values of members. -/
def depthOfMembers : List (Option String × Json) → Nat
  | [] => 0
  | (_, value) :: members => max value.depth (depthOfMembers members)
end

mutual
/-- Whether every string and number in a value can be read. -/
def isReadable : Json → Bool
  | number finite => finite
  | string text => text.isSome
  | array items => itemsReadable items
  | object members => membersReadable members
  | _ => true

/-- Whether several values can be read. -/
def itemsReadable : List Json → Bool
  | [] => true
  | item :: items => item.isReadable && itemsReadable items

/-- Whether the names and values of members can be read. -/
def membersReadable : List (Option String × Json) → Bool
  | [] => true
  | (name, value) :: members => name.isSome && value.isReadable && membersReadable members
end

/-- The text of a string. -/
def text? : Json → Option String
  | string text => text
  | _ => none

/-- A truth value. -/
def bool? : Json → Option Bool
  | bool value => some value
  | _ => none

/-- The items of an array, each read by `item?`. -/
def list? {α : Type} (item? : Json → Option α) : Json → Option (List α)
  | array items => items.mapM item?
  | _ => none

/-- The members of an object, if their names can be read. -/
def members? : Json → Option (List (String × Json))
  | object members => members.mapM fun (name, value) => name.map (·, value)
  | _ => none

end Json

/-- Whether none of the given names occurs twice among members. -/
def namedOnce (names : List String) (members : List (String × Json)) : Bool :=
  names.all fun name => (members.filter (·.1 == name)).length ≤ 1

/-- Reads the member with a name, or takes the default if there is none. -/
def member? {α : Type} (name : String) (read? : Json → Option α) (default : Option α)
    (members : List (String × Json)) : Option α :=
  match members.find? (·.1 == name) with
  | some (_, value) => read? value
  | none => default

end RequestRouting
