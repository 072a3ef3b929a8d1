import RequestRouting.Json.Token

/-!
# Reading JSON texts

The arrays and objects that are open form a stack, innermost first. A text is one value; commas
stand between items and members only.
-/

namespace RequestRouting.Json

/-- An array or object that is not closed yet, with what has been read of it, latest first. -/
inductive Open where
  | array (items : List Json)
  | object (members : List (Option String × Json)) (name : Option String)

mutual
/-- Reads on where a value has to come. -/
def readValue? (stack : List Open) : List Token → Option Json
  | .scalar value :: tokens => readAfter? value stack tokens
  | .mark '[' :: .mark ']' :: tokens => readAfter? (.array []) stack tokens
  | .mark '[' :: tokens => readValue? (.array [] :: stack) tokens
  | .mark '{' :: .mark '}' :: tokens => readAfter? (.object []) stack tokens
  | .mark '{' :: .scalar (.string name) :: .mark ':' :: tokens =>
    readValue? (.object [] name :: stack) tokens
  | _ => none

/-- Reads on after a value. -/
def readAfter? (value : Json) (stack : List Open) : List Token → Option Json
  | [] => if stack.isEmpty then some value else none
  | .mark ',' :: .scalar (.string next) :: .mark ':' :: tokens =>
    match stack with
    | .object members name :: stack =>
      readValue? (.object ((name, value) :: members) next :: stack) tokens
    | _ => none
  | .mark ',' :: tokens =>
    match stack with
    | .array items :: stack => readValue? (.array (value :: items) :: stack) tokens
    | _ => none
  | .mark ']' :: tokens =>
    match stack with
    | .array items :: stack => readAfter? (.array (value :: items).reverse) stack tokens
    | _ => none
  | .mark '}' :: tokens =>
    match stack with
    | .object members name :: stack =>
      readAfter? (.object ((name, value) :: members).reverse) stack tokens
    | _ => none
  | _ => none
end

/-- The value written by a text. -/
def parse? (text : String) : Option Json := do
  readValue? [] (← tokens? text.toList)

end RequestRouting.Json
