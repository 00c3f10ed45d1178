import ContentEngine.View.Basic
import ContentEngine.Memory.Views
import ContentEngine.View.Change
import ContentEngine.View.Selection
import ContentEngine.View.Layout
import ContentEngine.Server.Request
import ContentEngine.Server.Response
/-!
# Requests about editor views

Views belong to a content type, which is looked for first. A change reads the view before it reads
the body of the request: `viewToChange` is the first half of a change and `changeView` the second
one.
-/

namespace ContentEngine

/-!
### Roles of users

Everyone who sends a request acts in a role. One who does not say in which acts in the usual one.
-/

namespace Server

/-- The role of those who name none. -/
def usualRole : String := "ADMIN"

/-- A role, or the usual one if it is empty. -/
def roleOrUsual (role : String) : String :=
  if role = "" then usualRole else role

/-- The role that a value names. -/
def roleOf (v : Value) : Outcome String := do
  return roleOrUsual (← roleName v)

/-! ### Requests -/

/-- The fault of a view that is not there. -/
def noSuchView (viewId : String) : Fault :=
  .notFound "Editor view not found" (some "view_id") (.obj [("id", .str viewId)])

/-- A stored view as it is shown. -/
def shownView (v : StoredView) : Outcome Value := do
  return .obj (← EditorView.ofRecord v.toObj).toRecord

/-- The role that a request asks about: the one that it names, or that of its sender. -/
def askedRole (r : Request) (senderRole : String) : String :=
  let named := upperText (trim ((r.parameter? "role").getD ""))
  if named = "" then senderRole else named

/-- Shows the view of a type that is in effect for a role, with its layout. -/
def effectiveView (typeName senderRole : String) (r : Request) : Action World Response := do
  let t ← Memory.requireType typeName
  let role := askedRole r senderRole
  let views := (← Memory.listViews t.id).map StoredView.toObj
  let picked ← (EditorView.effective? views (.str role) (r.parameter "view") : Outcome _)
  let shown : Value := (picked.map fun v => Value.obj v.toRecord).getD .null
  let fields ← Memory.getFields t.id
  let layout ←
    (ViewLayout.ofRecord (.list (fields.map fun f => .obj f.toObj)) shown : Outcome ViewLayout)
  return .success 200 [("view", shown), ("role", .str role), ("sections", layout.sectionsValue)]
    (layout.warningsValue.asList?.getD [])

/-- Shows the views of a type. -/
def listViews (typeName : String) : Action World Response := do
  let t ← Memory.requireType typeName
  let views ← Memory.listViews t.id
  return .shown [("views", .list (← (views.mapM shownView : Outcome (List Value))))]

/-- Makes a view of a type. -/
def createView (typeName : String) (r : Request) : Action World Response := do
  let t ← Memory.requireType typeName
  let body ← (r.json : Outcome Value)
  let view ← (EditorView.prepare body [] : Outcome EditorView)
  let stored ← Memory.createView t.id view.stored
  return .created [("view", ← (shownView stored : Outcome Value))]

/-- The view of a type that is to be changed. -/
def viewToChange (typeName viewId : String) : Action World StoredView := do
  let t ← Memory.requireType typeName
  match ← Memory.getView? t.id viewId with
  | some view => return view
  | none => throw (noSuchView viewId)

/-- Changes a view that has been read before. -/
def changeView (current : StoredView) (r : Request) : Action World Response := do
  let body ← (r.json : Outcome Value)
  let view ← (EditorView.prepare body current.toObj : Outcome EditorView)
  match ← Memory.updateView? current.typeId current.id view.stored with
  | some stored => return .shown [("view", ← (shownView stored : Outcome Value))]
  | none => throw (noSuchView current.id)

/-- Changes a view of a type. -/
def updateView (typeName viewId : String) (r : Request) : Action World Response := do
  changeView (← viewToChange typeName viewId) r

/-- Takes a view of a type out. -/
def deleteView (typeName viewId : String) : Action World Response := do
  let t ← Memory.requireType typeName
  if ← Memory.deleteView t.id viewId then return .shown [("id", .str viewId)]
  else throw (noSuchView viewId)

end Server

end ContentEngine
