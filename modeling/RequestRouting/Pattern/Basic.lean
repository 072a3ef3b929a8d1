import RequestRouting.Dictionary
import RequestRouting.Pattern.Expression
import RequestRouting.Regex.Search

/-!
# Path patterns

A compiled pattern matches paths, extracts the values of its variables, and generates a path
from such values.
-/

namespace RequestRouting

/-- A pattern with the expression that it is compiled to. If `slashAllowed`, it also matches
its paths with a slash at the end. -/
structure PathPattern where
  text : String
  slashAllowed : Bool
  expression : Regex
  /-- Only constraints make an expression another one. -/
  direct : (Pattern.segments text).any PatternSegment.isConstrained = false →
    expression = Pattern.directExpression (slashAllowed && text.toList.getLast? != some '/')
      (Pattern.segments text)
  deriving DecidableEq

namespace Pattern

/-- A request path with a leading slash, as patterns are matched against it. -/
def slashed (path : String) : String :=
  if path.toList.head? = some '/' then path else String.ofList ('/' :: path.toList)

end Pattern

namespace PathPattern

/-- Compiles a pattern, whose text is normalized first. -/
def compile [Regex.Dialect] (slashAllowed : Bool) (pattern : String) :
    Except RoutingError PathPattern :=
  let text := Pattern.normalize pattern
  let slash := slashAllowed && text.toList.getLast? != some '/'
  match compiled : Pattern.expression slash (Pattern.segments text) with
  | .ok expression =>
    .ok ⟨text, slashAllowed, expression, fun unconstrained =>
      Except.ok.inj (compiled.symm.trans (Pattern.expression_of_unconstrained unconstrained slash))⟩
  | .error fault => .error (.invalidPattern text fault)

section

variable {pattern : PathPattern} {slashAllowed : Bool} {text : String}

/-- What is known of a compiled pattern in every dialect. -/
structure MadeFrom (pattern : PathPattern) (slashAllowed : Bool) (text : String) : Prop where
  slashAllowed : pattern.slashAllowed = slashAllowed
  normalized : pattern.text = Pattern.normalize text

theorem MadeFrom.head?_text (made : pattern.MadeFrom slashAllowed text) :
    pattern.text.toList.head? = some '/' := by
  rw [made.normalized]
  unfold Pattern.normalize
  split <;> simp

theorem of_compile [Regex.Dialect] (compiled : compile slashAllowed text = .ok pattern) :
    pattern.MadeFrom slashAllowed text := by
  unfold compile at compiled
  dsimp only at compiled
  split at compiled
  · obtain rfl := Except.ok.inj compiled
    exact ⟨rfl, rfl⟩
  · simp at compiled

/-- A pattern that does not compile is reported in its normalized form. -/
theorem of_compile_error [Regex.Dialect] {error : RoutingError}
    (failed : compile slashAllowed text = .error error) :
    ∃ fault, error = .invalidPattern (Pattern.normalize text) fault := by
  unfold compile at failed
  dsimp only at failed
  split at failed
  · simp at failed
  · rename_i fault _
    exact ⟨fault, (Except.error.inj failed).symm⟩

theorem mem_toOption_compile [Regex.Dialect] :
    pattern ∈ (compile slashAllowed text).toOption ↔ compile slashAllowed text = .ok pattern := by
  cases compile slashAllowed text <;> simp [Except.toOption]

end

/-- The segments of a pattern. -/
def segments (pattern : PathPattern) : List PatternSegment :=
  Pattern.segments pattern.text

/-- The names of the variables, from left to right. -/
def names (pattern : PathPattern) : List String :=
  (Pattern.names pattern.segments).map String.ofList

/-- The values that a match gives to the variables. Of variables with one name the last that
took part in the match counts. -/
def bind (names : List String) (found : Regex.Match) : Dictionary :=
  names.zipIdx.foldl (fun params (name, slot) =>
    match found.captured? slot with
    | some value => params.insert name (String.ofList value)
    | none => params) .empty

/-- The values of the variables in a path, if the pattern matches it. -/
def match? (pattern : PathPattern) (path : String) : Option Dictionary :=
  (pattern.expression.search? path.toList).map (bind pattern.names)

/-- Whether the pattern matches a path. -/
def isMatch (pattern : PathPattern) (path : String) : Bool :=
  (pattern.expression.search? path.toList).isSome

/-- The text that a token stands for when its variable has the given value. -/
def tokenText? (params : Dictionary) : PatternToken → Option (List Char)
  | .literal text => some text
  | .parameter name _ => (params.get? (String.ofList name)).map String.toList
  | .star | .anyChar => none

/-- The text that a segment stands for. The rest of a path is written with one slash before it,
or not at all if it is empty. -/
def segmentText? (params : Dictionary) : PatternSegment → Option (List Char)
  | .any => none
  | .captureRest name => (params.get? (String.ofList name)).map fun value =>
      if value.isEmpty then [] else '/' :: value.toList.dropWhile (· == '/')
  | .tokens tokens => (tokens.mapM (tokenText? params)).map fun texts => '/' :: texts.flatten

/-- The path with these values, if each variable has one and the pattern has no wildcard, which
would leave the path open. -/
def reverse? (pattern : PathPattern) (params : Dictionary) : Option String := do
  let texts ← pattern.segments.mapM (segmentText? params)
  match texts.flatten with
  | [] => return "/"
  | path => return String.ofList path

end PathPattern
end RequestRouting
