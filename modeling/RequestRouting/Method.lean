import RequestRouting.Text.Cut

/-!
# Request methods

The eight HTTP methods that routes are registered for.
-/

namespace RequestRouting

/-- An HTTP request method. -/
inductive Method where
  | get
  | head
  | post
  | put
  | patch
  | delete
  | options
  | trace
  deriving DecidableEq

namespace Method

/-- Every method, in the order in which a default configuration lists them. -/
def all : List Method :=
  [get, head, post, put, patch, delete, options, trace]

/-- The name of the method, in upper case. -/
def name : Method → String
  | get => "GET"
  | head => "HEAD"
  | post => "POST"
  | put => "PUT"
  | patch => "PATCH"
  | delete => "DELETE"
  | options => "OPTIONS"
  | trace => "TRACE"

/-- The method with exactly this name, as it is spelled in documents. -/
def ofName? (text : String) : Option Method :=
  all.find? (·.name == text)

/-- The method with this name in any mixture of cases. -/
def parse? (text : String) : Option Method :=
  all.find? fun method => Text.sameIgnoringCase method.name text

end Method
end RequestRouting
