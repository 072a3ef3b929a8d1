import RequestRouting.Pattern.Specificity
import RequestRouting.Route.Basic

/-!
# Selecting a route

Of the routes for a path those whose pattern and conditions match the request are candidates.
The candidates are ranked, and the first one wins unless the second ranks alike.
-/

namespace RequestRouting

/-- A route that matches a request, with its conditions as far as they matched. -/
structure Candidate where
  entry : RouteEntry
  conditions : Conditions
  params : Dictionary

namespace Candidate

/-- The candidate that a route is for a request, if its pattern matches the path and the request
satisfies its conditions. -/
def of? (request : Request) (path : String) (entry : RouteEntry) : Option Candidate := do
  let params ← entry.pattern.match? path
  let conditions ← entry.conditions.matching? request
  return ⟨entry, conditions, params⟩

/-- The match that is reported if the candidate wins. -/
def toMatch (source : MatchSource) (candidate : Candidate) : RouteMatch :=
  ⟨candidate.entry.handler, candidate.entry.id, candidate.entry.pattern.text, candidate.params,
    source⟩

/-- The order of candidates by their conditions. -/
def compareConditions (a b : Candidate) : Ordering :=
  a.conditions.compare b.conditions

/-- The order of candidates by their patterns, and by their conditions where those tie. -/
def compareForPath (path : String) (a b : Candidate) : Ordering :=
  (a.entry.pattern.compareSpecificity b.entry.pattern path).then (compareConditions a b)

end Candidate

/-- The candidates among routes, in their order. -/
def candidates (request : Request) (path : String) (entries : List RouteEntry) :
    List Candidate :=
  entries.filterMap (Candidate.of? request path)

/-- Candidates in the order of `compare`, those that tie in the order they had. -/
def ranked (compare : Candidate → Candidate → Ordering) (candidates : List Candidate) :
    List Candidate :=
  candidates.mergeSort fun a b => compare a b != .gt

/-- The outcome of ranking candidates. If the best ones tie, the first two are reported, except
on a preflight where a tied route may be used by pages of other origins. -/
def select (request : Request) (source : MatchSource)
    (compare : Candidate → Candidate → Ordering) (candidates : List Candidate) : MatchResult :=
  match ranked compare candidates with
  | [] => .noMatch
  | [best] => .handler (best.toMatch source)
  | best :: next :: others =>
    if compare best next = .eq then
      let tied := (best :: next :: others).takeWhile fun candidate => compare best candidate == .eq
      if request.isPreflight && tied.any (·.conditions.crossOrigin) then .ambiguousPreflight
      else .ambiguous best.entry.handler next.entry.handler
    else .handler (best.toMatch source)

end RequestRouting
