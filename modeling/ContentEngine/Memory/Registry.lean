import ContentEngine.Memory.World
import ContentEngine.Store.Basic
/-!
# Content types in memory

The registry of content types with their fields. Slugs of types are distinct, and the slug of a type
is fixed as soon as the type has an entry. A request to make or to change a type may carry a list of
fields; the type is stored before that list is looked at.
-/

namespace ContentEngine

namespace World

/-- The type with an identifier or, if there is none, with a slug. -/
def findType? (w : World) (idOrSlug : String) : Option ContentType :=
  (w.types.find? fun t => t.id == idOrSlug).or
    (w.types.find? fun t => t.values.slug == idOrSlug)

/-- Whether a slug belongs to another type than the one with an identifier. -/
def typeSlugTaken (w : World) (slug ownId : String) : Bool :=
  w.types.any fun t => t.values.slug == slug && t.id != ownId

/-- The number of entries of a type. -/
def entryCount (w : World) (typeId : String) : Nat :=
  (w.entries.ofType typeId).length

/-- The world in which a type has been replaced by one with its identifier. -/
def putType (w : World) (t : ContentType) : World :=
  { w with types := w.types.map fun old => if old.id = t.id then t else old }

/-- The stored fields of a type. -/
def fieldsOf (w : World) (typeId : String) : List StoredField :=
  (w.fields.get? typeId).getD []

/-- The world in which the fields of a type are the given ones. -/
def putFields (w : World) (typeId : String) (fields : List StoredField) : World :=
  { w with fields := w.fields.set typeId fields }

/-- The world with one more type, which has no fields yet. -/
def addType (w : World) (t : ContentType) : World :=
  { w with types := w.types ++ [t], fields := w.fields.set t.id [] }

/-- The world without a type and its fields. -/
def dropType (w : World) (typeId : String) : World :=
  { w with
    types := w.types.filter fun t => t.id != typeId
    fields := w.fields.erase typeId }

end World

namespace Memory

/-- The type with an identifier or a slug, which must be there. -/
def requireType (idOrSlug : String) : Action World ContentType := do
  match (← get).findType? idOrSlug with
  | some t => return t
  | none => throw (noSuchType (.str idOrSlug))

/-- The fields of a type, in their order. -/
def getFields (idOrSlug : String) : Action World (List PresentedField) := do
  let t ← requireType idOrSlug
  let stored := (← get).fieldsOf t.id
  PresentedField.listOf (stored.map StoredField.toObj)

/-- A type as an object, with its fields if they are asked for. -/
def getType? (idOrSlug : String) (withFields : Bool) : Action World (Option Obj) := do
  match (← get).findType? idOrSlug with
  | none => return none
  | some t =>
    if withFields then
      let fields ← getFields t.id
      return some (t.toObj ++ [("fields", .list (fields.map fun f => .obj f.toObj))])
    else return some t.toObj

/-- The records of some fields of a type. A field whose key was there before keeps
its identifier. -/
def recordFields (typeId : String) (before : List StoredField) :
    List FieldInput → Action World (List StoredField)
  | [] => pure []
  | input :: rest => do
    let id ←
      match before.find? fun f => f.input.key == input.key with
      | some f => pure f.id
      | none => World.issueId
    return ⟨id, typeId, input⟩ :: (← recordFields typeId before rest)

/-- Replaces the fields of a type by those that a request describes. -/
def replaceFields (idOrSlug : String) (raw : Value) : Action World (List PresentedField) := do
  let t ← requireType idOrSlug
  let inputs ← FieldInput.listOf raw
  let now ← World.now
  let before := (← get).fieldsOf t.id
  let fields ← recordFields t.id before inputs
  modify fun w => (w.putFields t.id fields).putType { t with updatedAt := now }
  getFields t.id

/-- Replaces the fields of a type if the request to make or change it carries a list of fields. -/
def replaceRequested (typeId : String) (request : Value) : Action World Unit := do
  match Obj.get request.members "fields" with
  | .list items => do
    let _ ← replaceFields typeId (.list items)
  | _ => pure ()

/-- Makes a type. -/
def createType (request : Value) : Action World (Option Obj) := do
  let values ← ContentType.prepare request []
  if (← get).typeSlugTaken values.slug "" then throw (typeSlugConflict (.str values.slug))
  let now ← World.now
  let id ← World.issueId
  modify fun w => w.addType ⟨id, values, now, now⟩
  replaceRequested id request
  getType? id true

/-- Changes a type. -/
def updateType (idOrSlug : String) (request : Value) : Action World (Option Obj) := do
  let t ← requireType idOrSlug
  let values ← ContentType.prepare request t.toObj
  if values.slug ≠ t.values.slug then
    if (← get).typeSlugTaken values.slug t.id then throw (typeSlugConflict (.str values.slug))
    if 0 < (← get).entryCount t.id then throw (typeSlugFixed (.str t.values.slug))
  let now ← World.now
  modify fun w => w.putType { t with values := values, updatedAt := now }
  replaceRequested t.id request
  getType? t.id true

/-- The types of a kind, or all if none is named, in the order of their labels. -/
def listTypes (kind : Value) : Action World (List ContentType) := do
  let types := (← get).types.filter fun t => kind.isNull || kind.isText t.values.kind.text
  return types.mergeSort ContentType.le

/-- Takes a type out with its fields. Its entries and views stay. -/
def deleteType (idOrSlug : String) : Action World Bool := do
  let t ← requireType idOrSlug
  modify fun w => w.dropType t.id
  return true

end Memory

end ContentEngine
