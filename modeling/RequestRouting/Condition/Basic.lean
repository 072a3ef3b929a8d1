import RequestRouting.Condition.Expression
import RequestRouting.Condition.MediaType
import RequestRouting.Request.Basic

/-!
# Conditions

What a route asks of a request besides its method and path. `Conditions.matching?` says whether
a request satisfies them, and keeps of the media types those that matched; by the size of what
is left, routes that match the same path are ranked.
-/

namespace RequestRouting

/-- The conditions of a route. -/
structure Conditions where
  /-- The media types of which the body must have one. -/
  consumes : List String := []
  /-- The media types of which the client must accept one. -/
  produces : List String := []
  params : List NameValue := []
  headers : List NameValue := []
  /-- Whether pages of other origins may use the route. -/
  crossOrigin : Bool := false
  deriving DecidableEq

namespace Conditions

/-- The media types that cover that of the body, if there are any or none was asked for. -/
def consumed? (conditions : Conditions) (request : Request) : Option (List String) :=
  if conditions.consumes.isEmpty then some []
  else do
    let contentType ← request.contentType?
    let matched := conditions.consumes.filter fun declared =>
      MediaType.includes declared contentType
    if matched.isEmpty then none else some matched

/-- The media types that the client accepts, if there are any or none was asked for. A client
that names none accepts all. -/
def produced? (conditions : Conditions) (request : Request) : Option (List String) :=
  if conditions.produces.isEmpty then some []
  else if request.accept.isEmpty then some conditions.produces
  else
    let matched := conditions.produces.filter fun declared =>
      request.accept.any (MediaType.compatible declared)
    if matched.isEmpty then none else some matched

/-- The conditions as far as they matched, if the request satisfies them. A preflight satisfies
all, as it carries neither the headers nor the body of the later request. -/
def matching? (conditions : Conditions) (request : Request) : Option Conditions :=
  if request.isPreflight then some conditions
  else if !conditions.params.all (fun p => p.holds (request.query.get? p.name)) then none
  else if !conditions.headers.all (fun h => h.holds (request.header? h.name)) then none
  else do
    let consumes ← conditions.consumed? request
    let produces ← conditions.produced? request
    return { conditions with consumes, produces }

/-- The order of conditions that matched, most specific first: those with more conditions on
parameters, then on headers, then on media types. -/
def compare (a b : Conditions) : Ordering :=
  (Ord.compare b.params.length a.params.length).then <|
    (Ord.compare b.headers.length a.headers.length).then <|
      (Ord.compare b.consumes.length a.consumes.length).then <|
        Ord.compare b.produces.length a.produces.length

end Conditions
end RequestRouting
