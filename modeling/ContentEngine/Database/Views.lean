import ContentEngine.Database.Session
import ContentEngine.Json.Writer
import ContentEngine.Relation.User
import ContentEngine.Store.Basic
import ContentEngine.Value.Number
/-!
# Editor views in a database

A view that is stored as the default takes that from the other views of its type in the same
transaction. What is no identifier names no view, and the database is not asked for it.
-/

namespace ContentEngine

namespace Database

/-- The columns of a view that hold documents. -/
def viewDocuments : List String := ["roles", "default_roles", "config"]

/-- A view as a record. -/
def viewRecord? (row : Option Obj) : Outcome (Option Obj) :=
  record? viewDocuments row

/-- The text of a document among the values of a view, or of another one if there is none. -/
def documentParam (values : Obj) (key : String) (usual : Value) : Outcome Value := do
  return .str (← ((Obj.get values key).orElse usual).storedText)

/-- The values of a view as parameters of a statement. -/
def viewParams (values : Obj) : Outcome (List Value) := do
  let roles ← documentParam values "roles" (.list [])
  let defaultRoles ← documentParam values "default_roles" (.list [])
  let priority ← ((Obj.get values "priority").orElse (.int 0)).wholePart
  let config ← documentParam values "config" (.obj [])
  return [Obj.get values "slug", Obj.get values "label", roles, defaultRoles,
    .bool (Obj.get values "is_default").truthy, .int priority, config]

/-- The conflict of a view whose slug belongs to another one. -/
def viewConflict (values : Obj) (_text : String) : Fault :=
  viewSlugConflict (Obj.get values "slug")

/-- Takes being the default from the views of a type, save one, if some values say that this one is
the default. -/
def settleDefault (typeId viewId : Value) (values : Obj) : Action Session Unit := do
  if (Obj.get values "is_default").truthy then
    let _ ← execute "entry_editor_views.clear_default" [typeId, viewId]

/-- The views of a type. -/
def listViews (typeId : Value) : Action Session (List Obj) := do
  let rows ← transaction (rows "entry_editor_views.list" [typeId])
  (records viewDocuments rows : Outcome (List Obj))

/-- The view of a type with an identifier. -/
def getView? (typeId viewId : Value) : Action Session (Option Obj) := do
  if !viewId.isIdentifier then return none
  let row ← transaction (row? "entry_editor_views.get" [viewId, typeId])
  (viewRecord? row : Outcome (Option Obj))

/-- Makes a view. -/
def createView? (typeId : Value) (values : Obj) : Action Session (Option Obj) := do
  let id ← issueId
  let now ← now
  let row ← orConflict (viewConflict values) <| transaction do
    let params ← (viewParams values : Outcome (List Value))
    let row ← row? "entry_editor_views.create" (params ++ [.str id, typeId, .str now, .str now])
    settleDefault typeId (.str id) values
    return row
  (viewRecord? row : Outcome (Option Obj))

/-- Changes a view of a type. -/
def updateView? (typeId viewId : Value) (values : Obj) : Action Session (Option Obj) := do
  if !viewId.isIdentifier then return none
  let row ← orConflict (viewConflict values) <| transaction do
    let params ← (viewParams values : Outcome (List Value))
    let row ← row? "entry_editor_views.update" (params ++ [.str (← now), viewId, typeId])
    if row.isSome then settleDefault typeId viewId values
    return row
  (viewRecord? row : Outcome (Option Obj))

/-- Takes a view of a type out, and says whether it was there. -/
def deleteView (typeId viewId : Value) : Action Session Bool := do
  if !viewId.isIdentifier then return false
  let count ← transaction (affected "entry_editor_views.delete" [viewId, typeId])
  return decide (0 < count)

/-- Takes all views of a type out, and says how many there were. -/
def deleteViewsOf (typeId : Value) : Action Session Int :=
  transaction (affected "entry_editor_views.delete_for_type" [typeId])

end Database

end ContentEngine
