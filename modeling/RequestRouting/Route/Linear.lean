import RequestRouting.Route.Selection

/-!
# Linear matching

The complete matcher: it goes through all routes, and ranks those that match by their patterns
and then by their conditions.
-/

namespace RequestRouting

/-- Routes in the order of their registration. -/
structure LinearMatcher where
  entries : List RouteEntry

namespace LinearMatcher

/-- The matcher without routes. -/
def empty : LinearMatcher := ⟨[]⟩

/-- Adds a route. -/
def register (matcher : LinearMatcher) (entry : RouteEntry) : LinearMatcher :=
  ⟨matcher.entries ++ [entry]⟩

/-- Whether an entry belongs to a registration and a method. -/
def isFor (id : RouteId) (method : Method) (entry : RouteEntry) : Bool :=
  entry.id == id && entry.method == method

/-- Drops the entries of a registration for a method. -/
def unregister (matcher : LinearMatcher) (id : RouteId) (method : Method) : LinearMatcher :=
  ⟨matcher.entries.filter (!isFor id method ·)⟩

/-- The number of entries that `unregister` drops. -/
def removable (matcher : LinearMatcher) (id : RouteId) (method : Method) : Nat :=
  matcher.entries.countP (isFor id method)

/-- The outcome for a request, of which method and path are given apart. -/
def lookup (matcher : LinearMatcher) (method : Method) (path : String) (request : Request) :
    MatchResult :=
  let path := Pattern.slashed path
  select request .fallback (Candidate.compareForPath path)
    (candidates request path (matcher.entries.filter (·.method == method)))

end LinearMatcher
end RequestRouting
