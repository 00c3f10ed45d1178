import ContentEngine.Fault
import ContentEngine.Json.Reader
import ContentEngine.Text.Blank
import ContentEngine.Text.Case
import ContentEngine.Text.Search
/-!
# Requests

What a client sends: a method, a path, a query, headers and a body. Bodies are JSON texts.
-/

namespace ContentEngine

namespace Server

/-- A request. -/
structure Request where
  method : String
  path : String
  query : List (String × String)
  headers : List (String × String)
  body : String

namespace Request

/-- The value of a parameter of the query. -/
def parameter? (r : Request) (name : String) : Option String :=
  r.query.lookup name

/-- The value of a parameter as a document. -/
def parameter (r : Request) (name : String) : Value :=
  .ofText? (r.parameter? name)

/-- Whether a parameter of the query says yes. -/
def flag (r : Request) (name : String) : Bool :=
  ["1", "true", "yes"].contains (lowerText (trim ((r.parameter? name).getD "")))

/-- The value of a header. The case of its name does not count. -/
def header? (r : Request) (name : String) : Option String :=
  (r.headers.find? fun h => lowerText h.1 == lowerText name).map (·.2)

/-- The token that a request bears, if there is one and it is not blank. -/
def bearerToken? (r : Request) : Option String :=
  let header := ((r.header? "Authorization").getD "").toList
  if "Bearer ".toList.isPrefixOf header then
    let token := trim (String.ofList (header.drop 7))
    if token = "" then none else some token
  else none

/-- The document that the body of a request denotes. A byte order mark in front of it is passed
over. -/
def json (r : Request) : Outcome Value :=
  let text :=
    match r.body.toList with
    | '\ufeff' :: rest => rest
    | text => text
  match readJson text with
  | some v => .ok v
  | none => .error (.validation "Request body must be valid JSON" (some "body") .null)

end Request

end Server

end ContentEngine
