import ContentEngine.Memory.Registry
/-!
# Editor views in memory

Views are stored as they are given. Within a content type slugs are distinct, and no more than one
view is the default: a view that is stored as the default takes that from the others.
-/

namespace ContentEngine

namespace World

/-- Whether a slug belongs to another view of a type than the one with an identifier. -/
def viewSlugTaken (w : World) (typeId slug ownId : String) : Bool :=
  w.views.any fun v => v.typeId == typeId && v.slug == slug && v.id != ownId

/-- The view of a type with an identifier. -/
def viewWithId? (w : World) (typeId id : String) : Option StoredView :=
  w.views.find? fun v => v.typeId == typeId && v.id == id

/-- The world in which a view has been replaced by one with its identifier. -/
def putView (w : World) (v : StoredView) : World :=
  { w with views := w.views.map fun old => if old.id = v.id then v else old }

/-- A view that is not the default. -/
def withoutDefault (v : StoredView) : StoredView :=
  { v with values := Obj.set v.values "is_default" (.bool false) }

/-- The world in which a view that is the default is the only one of its type. -/
def settleDefault (w : World) (v : StoredView) : World :=
  if (Obj.get v.values "is_default").truthy then
    { w with
      views := w.views.map fun other =>
        if other.typeId = v.typeId ∧ other.id ≠ v.id then withoutDefault other else other }
  else w

end World

namespace Memory

/-- The slug among the values of a view. -/
def slugOfView (values : Obj) : String :=
  (Obj.get values "slug").asText?.getD ""

/-- The views of a type in the order of their slugs. -/
def listViews (typeId : String) : Action World (List StoredView) := do
  return ((← get).views.filter fun v => v.typeId == typeId).mergeSort StoredView.le

/-- The view of a type with an identifier. -/
def getView? (typeId id : String) : Action World (Option StoredView) := do
  return (← get).viewWithId? typeId id

/-- Makes a view. -/
def createView (typeId : String) (values : Obj) : Action World StoredView := do
  if (← get).viewSlugTaken typeId (slugOfView values) "" then
    throw (viewSlugConflict (.str (slugOfView values)))
  let now ← World.now
  let id ← World.issueId
  let view : StoredView := ⟨id, typeId, values, now, now⟩
  modify fun w => World.settleDefault { w with views := w.views ++ [view] } view
  return view

/-- Changes a view of a type. Values that are not given stay as they were. -/
def updateView? (typeId id : String) (values : Obj) : Action World (Option StoredView) := do
  match (← get).viewWithId? typeId id with
  | none => return none
  | some view =>
    if (← get).viewSlugTaken typeId (slugOfView values) id then
      throw (viewSlugConflict (.str (slugOfView values)))
    let now ← World.now
    let changed : StoredView :=
      { view with values := Obj.merge view.values values, updatedAt := now }
    modify fun w => (w.putView changed).settleDefault changed
    return some changed

/-- Takes a view of a type out, and says whether it was there. -/
def deleteView (typeId id : String) : Action World Bool := do
  match (← get).viewWithId? typeId id with
  | none => return false
  | some view =>
    modify fun w => { w with views := w.views.filter fun v => v.id != view.id }
    return true

/-- Takes all views of a type out, and says how many there were. -/
def deleteViewsOf (typeId : String) : Action World Nat := do
  let views := (← get).views.filter fun v => v.typeId == typeId
  modify fun w => { w with views := w.views.filter fun v => v.typeId != typeId }
  return views.length

end Memory

end ContentEngine
