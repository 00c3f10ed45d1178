import ContentEngine.Memory.Entries
import ContentEngine.Memory.Views
import ContentEngine.Server.Request
import ContentEngine.Server.Response
/-!
# Requests about content types

A type may be named by its identifier or by its slug. A request to make or change a type whose body
is no object counts as one that says nothing.
-/

namespace ContentEngine

namespace Server

/-- Fields as they are shown. -/
def fieldList (fields : List PresentedField) : Value :=
  .list (fields.map fun f => .obj f.toObj)

/-- Shows the types of a kind, or all. -/
def listTypes (r : Request) : Action World Response := do
  let types ← Memory.listTypes (r.parameter "kind")
  return .shown [("content_types", .list (types.map fun t => .obj t.toObj))]

/-- What a request to make or change a type says. -/
def typeRequest (r : Request) : Outcome Value := do
  let body ← r.json
  return if body.isObj then body else .obj []

/-- Makes a type. -/
def createType (r : Request) : Action World Response := do
  let request ← (typeRequest r : Outcome Value)
  let t ← Memory.createType request
  return .created [("content_type", .obj (t.getD []))]

/-- Shows a type with its fields. -/
def getType (typeName : String) : Action World Response := do
  match ← Memory.getType? typeName true with
  | some t => return .shown [("content_type", .obj t)]
  | none => throw (noSuchType (.str typeName))

/-- Changes a type. -/
def updateType (typeName : String) (r : Request) : Action World Response := do
  let request ← (typeRequest r : Outcome Value)
  let t ← Memory.updateType typeName request
  return .shown [("content_type", .obj (t.getD []))]

/-- Takes a type out with everything that belongs to it. -/
def deleteType (typeName : String) : Action World Response := do
  let t ← Memory.requireType typeName
  let _ ← Memory.deleteEntriesOf t.id
  let _ ← Memory.deleteViewsOf t.id
  let _ ← Memory.deleteType t.id
  return .shown [("id", .str t.id)]

/-- Shows the fields of a type. -/
def getFields (typeName : String) : Action World Response := do
  return .shown [("fields", fieldList (← Memory.getFields typeName))]

/-- Replaces the fields of a type. The body is the list of fields, or an object that holds it. -/
def replaceFields (typeName : String) (r : Request) : Action World Response := do
  let body ← (r.json : Outcome Value)
  let fields := if body.isObj then Obj.get body.members "fields" else body
  return .shown [("fields", fieldList (← Memory.replaceFields typeName fields))]

end Server

end ContentEngine
