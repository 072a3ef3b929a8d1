import RequestRouting.Condition.Basic
import RequestRouting.Pattern.Basic

/-!
# Routes

A route that is registered for several methods has one entry for each, all with the id of the
registration. A lookup ends with one match, none, or a tie of several.
-/

namespace RequestRouting

/-- The number of a registration. -/
structure RouteId where
  number : Nat
  deriving DecidableEq

/-- The written form of an id. -/
def RouteId.text (id : RouteId) : String :=
  "#" ++ toString id.number

/-- A route for one method. -/
structure RouteEntry where
  id : RouteId
  method : Method
  pattern : PathPattern
  conditions : Conditions
  handler : String
  deriving DecidableEq

/-- The part of a registry that answered a lookup. -/
inductive MatchSource where
  | tree
  | fallback
  deriving DecidableEq

/-- A route that matched a request. -/
structure RouteMatch where
  handler : String
  id : RouteId
  pattern : String
  params : Dictionary
  source : MatchSource
  deriving DecidableEq

/-- The outcome of a lookup. -/
inductive MatchResult where
  /-- One route ranks before all others. -/
  | handler (found : RouteMatch)
  /-- No route matched. -/
  | noMatch
  /-- Several routes matched and none ranks first. -/
  | ambiguous (first second : String)
  /-- Routes tied on a preflight, and one of them may be used by pages of other origins. -/
  | ambiguousPreflight
  deriving DecidableEq

namespace MatchResult

/-- The match, if there is exactly one. -/
def match? : MatchResult → Option RouteMatch
  | handler found => some found
  | _ => none

/-- Whether no route matched. -/
def isNoMatch : MatchResult → Bool
  | noMatch => true
  | _ => false

/-- The outcome where a tie for `path` is an error. A tie on a preflight is none. -/
def toExcept (path : String) : MatchResult → Except RoutingError (Option RouteMatch)
  | handler found => .ok (some found)
  | noMatch | ambiguousPreflight => .ok none
  | ambiguous first second => .error (.ambiguousMatch path first second)

end MatchResult
end RequestRouting
