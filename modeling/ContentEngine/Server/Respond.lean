import ContentEngine.Server.Token
import ContentEngine.Server.Route
import ContentEngine.Server.Types
import ContentEngine.Server.Views
import ContentEngine.Server.Entries
import ContentEngine.Server.Rows
/-!
# The server

`respond` answers a request. If there is a shared secret, a request has to bear a token that is
signed with it, and is not looked at otherwise; the role of its sender is then the one that the
token names. Only the health of the server, and which methods it serves, is told to everyone.
-/

namespace ContentEngine

namespace Server

/-! ### Who may ask -/

/-- Whether a request is answered to everyone. -/
def isPublic (r : Request) : Bool :=
  r.method == "OPTIONS" || r.path == "/health"

/-- The response to a request without a token that is accepted. -/
def denied (code message : String) : Response :=
  .failure 401 code message (some "Authorization") .null

/-- The role of the sender of a request that has been checked, or the response to one that is turned
away. -/
def senderOf (secret : List UInt8) (now : Int) (r : Request) : Except Response String := do
  match r.bearerToken? with
  | none => throw (denied "AUTH_MISSING_TOKEN" "Missing bearer token")
  | some token =>
    match acceptedClaims secret now token with
    | .error .refused => throw (denied "AUTH_INVALID_TOKEN" "Invalid bearer token")
    | .error .uncheckable => throw .serverFault
    | .ok claims =>
      match roleOf (Obj.get claims "role") with
      | .ok role => return role
      | .error _ => throw .serverFault

/-- The role of the sender of a request, or the response to one that is turned away. Without a
secret nobody is. -/
def senderRole (secret? : Option (List UInt8)) (now : Int) (r : Request) : Except Response String :=
  match secret? with
  | some secret => if isPublic r then .ok usualRole else senderOf secret now r
  | none => .ok usualRole

/-! ### What is asked for -/

/-- Does what a route asks for. -/
def perform (role : String) (r : Request) : Route → Action World Response
  | .health => return ⟨200, .obj [("ok", .bool true)]⟩
  | .listTypes => listTypes r
  | .createType => createType r
  | .getType t => getType t
  | .updateType t => updateType t r
  | .deleteType t => deleteType t
  | .getFields t => getFields t
  | .replaceFields t => replaceFields t r
  | .effectiveView t => effectiveView t role r
  | .listViews t => listViews t
  | .createView t => createView t r
  | .updateView t v => updateView t v r
  | .deleteView t v => deleteView t v
  | .listEntries t => listEntries t r
  | .createEntry t => createEntry t role r
  | .options t => options t r
  | .getEntry t e => getEntry t e
  | .updateEntry t e => updateEntry t e role r
  | .deleteEntry t e => deleteEntry t e
  | .listVersions t e => listVersions t e
  | .evaluateRows => (evaluateRows r : Outcome Response)

/-- Answers a request whose sender has a role. -/
def serve (role : String) (r : Request) : StateM World Response :=
  match findRoute r.method r.path with
  | .route route => return .ofOutcome (← ExceptT.run (perform role r route))
  | .otherMethod => return .notServed 405 "Method Not Allowed"
  | .elsewhere => return ⟨307, .null⟩
  | .nothing => return .notServed 404 "Not Found"

/-- The seconds from the start of the year 1970 to the present time of a world. -/
def secondsNow (w : World) : Int :=
  ((Moment.ofText? w.origin.now).map Moment.seconds).getD 0

/-- Answers a request. -/
def respond (secret? : Option (List UInt8)) (r : Request) : StateM World Response := do
  match senderRole secret? (secondsNow (← get)) r with
  | .error response => return response
  | .ok role => serve role r

end Server

end ContentEngine
