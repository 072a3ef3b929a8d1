import RequestRouting.Text.Blank
import RequestRouting.Text.Cut

/-!
# Condition expressions

A condition on a query parameter or a header is written `name`, `name=value`, `!name` or
`name!=value`. Blanks around the name and the value do not count.
-/

namespace RequestRouting

/-- A condition on the value with a name: that it is there, or that it is equal to `value`; or,
if negated, that this is not so. -/
structure NameValue where
  name : String
  value : Option String
  negated : Bool
  deriving DecidableEq

namespace NameValue

/-- Reads a condition. The first `!=` counts, or else the first `=`, or else a `!` in front. -/
def parse (expression : String) : NameValue :=
  let cs := expression.toList
  let trimmed (cs : List Char) := String.ofList (Text.trim cs)
  match Text.cut? ['!', '='] cs with
  | some (name, value) => ⟨trimmed name, some (trimmed value), true⟩
  | none =>
    match Text.cut? ['='] cs with
    | some (name, value) => ⟨trimmed name, some (trimmed value), false⟩
    | none =>
      match Text.trim cs with
      | '!' :: name => ⟨trimmed name, none, true⟩
      | name => ⟨String.ofList name, none, false⟩

/-- The written form of a condition. -/
def text (condition : NameValue) : String :=
  let mark := if condition.negated then "!" else ""
  match condition.value with
  | some value => condition.name ++ mark ++ "=" ++ value
  | none => mark ++ condition.name

/-- Whether the condition holds for an actual value, which may be missing. -/
def holds (condition : NameValue) (actual : Option String) : Bool :=
  let found := match condition.value, actual with
    | _, none => false
    | none, some _ => true
    | some expected, some actual => expected == actual
  found != condition.negated

end NameValue
end RequestRouting
