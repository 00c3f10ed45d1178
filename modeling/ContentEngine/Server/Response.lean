import ContentEngine.Json.Writer
/-!
# Responses

A response is a status with a document. The document says whether the request succeeded, and lists
errors and warnings beside what was asked for. A document that JSON cannot hold is never sent: the
response is then that of a server at fault.
-/

namespace ContentEngine

namespace Server

/-- A response. -/
structure Response where
  status : Nat
  body : Value

mutual

/-- A document as it is sent. Members whose key starts with `_sa` stay inside. -/
def outward : Value → Value
  | .list items => .list (outwardItems items)
  | .obj members => .obj (outwardMembers members)
  | v => v

/-- Items as they are sent. -/
def outwardItems : List Value → List Value
  | [] => []
  | item :: rest => outward item :: outwardItems rest

/-- Members as they are sent. -/
def outwardMembers : List (String × Value) → List (String × Value)
  | [] => []
  | (key, value) :: rest =>
    if "_sa".toList.isPrefixOf key.toList then outwardMembers rest
    else (key, outward value) :: outwardMembers rest

end

namespace Response

/-- The response of a success. -/
def success (status : Nat) (payload : Obj) (warnings : List Value) : Response :=
  ⟨status, .obj (("ok", .bool true) :: payload
    ++ [("errors", .list []), ("warnings", .list warnings)])⟩

/-- The response that shows what was asked for, without warnings. -/
def shown (payload : Obj) : Response :=
  success 200 payload []

/-- The response that shows what has been made. -/
def created (payload : Obj) : Response :=
  success 201 payload []

/-- The response of a failure. -/
def failure (status : Nat) (code message : String) (path : Option String) (detail : Value) :
    Response :=
  ⟨status, .obj [("ok", .bool false),
    ("errors", .list [.obj [("code", .str code), ("message", .str message), ("path", .ofText? path),
      ("detail", detail)]]),
    ("warnings", .list [])]⟩

/-- The response that reports an issue. -/
def ofIssue (i : Issue) : Response :=
  failure i.code.status i.code.text i.message i.path i.detail

/-- The response of a server at fault. -/
def serverFault : Response :=
  failure 500 "INTERNAL_ERROR" "Unexpected server error" none .null

/-- The response of a request that is not served at all. -/
def notServed (status : Nat) (detail : String) : Response :=
  ⟨status, .obj [("detail", .str detail)]⟩

/-- A response as it is sent. -/
def sent (r : Response) : Response :=
  match (outward r.body).writeJson .canonical with
  | .ok _ => { r with body := outward r.body }
  | .error _ => serverFault

/-- The response to a request that had some outcome. -/
def ofOutcome : Outcome Response → Response
  | .ok r => r.sent
  | .error (.issue i) => (ofIssue i).sent
  | .error _ => serverFault

end Response

end Server

end ContentEngine
