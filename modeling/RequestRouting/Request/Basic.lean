import RequestRouting.Dictionary
import RequestRouting.Method
import RequestRouting.Text.Blank
import RequestRouting.Text.Percent

/-!
# Requests

What the router looks at in a request: its method, path, query and headers.
-/

namespace RequestRouting

/-- A request. The names of headers are compared without regard to case. -/
structure Request where
  method : Method
  path : String
  query : Dictionary := .empty
  headers : Dictionary := .empty

namespace Request

/-- The key and value of one part of a query. -/
def queryPair (part : List Char) : String × String :=
  let (key, value) := (Text.cut? ['='] part).getD (part, [])
  (String.ofList (Text.decodePercent key), String.ofList (Text.decodePercent value))

/-- The parameters of a query, whose parts stand between ampersands. Empty parts are passed
over, and the last value of a key counts. -/
def parseQuery (query : List Char) : Dictionary :=
  .ofList (((query.splitOn '&').filter (!·.isEmpty)).map queryPair)

/-- The request for a target, which is a path and, after a question mark, a query. -/
def ofTarget (method : Method) (target : String) : Request :=
  match Text.cut? ['?'] target.toList with
  | some (path, query) => { method, path := String.ofList path, query := parseQuery query }
  | none => { method, path := target }

/-- The request with one more header. -/
def withHeader (request : Request) (name value : String) : Request :=
  { request with headers := request.headers.insert name value }

/-- The request with one more parameter in its query. -/
def withQuery (request : Request) (key value : String) : Request :=
  { request with query := request.query.insert key value }

/-- The value of a header. -/
def header? (request : Request) (name : String) : Option String :=
  (request.headers.entries.find? fun entry => Text.sameIgnoringCase entry.1 name).map (·.2)

/-- The media type of the body, without its parameters. -/
def contentType? (request : Request) : Option String :=
  (request.header? "content-type").map fun value =>
    String.ofList (Text.trim (Text.upTo ';' value.toList))

/-- The media types that the client accepts, without their parameters. -/
def accept (request : Request) : List String :=
  match request.header? "accept" with
  | none => []
  | some value =>
    (((value.toList.splitOn ',').map fun part => Text.trim (Text.upTo ';' part)).filter
      (!·.isEmpty)).map String.ofList

/-- Whether the request asks, on behalf of a page of another origin, if a later request would
be allowed. -/
def isPreflight (request : Request) : Bool :=
  request.method == .options && (request.header? "origin").isSome
    && (request.header? "access-control-request-method").isSome

end Request
end RequestRouting
