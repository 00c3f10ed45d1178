import ContentEngine.Database.Session
import ContentEngine.Store.Basic
import ContentEngine.ContentType.Basic
import ContentEngine.ContentType.Field
import ContentEngine.Json.Writer
import ContentEngine.Relation.User
/-!
# Content types in a database

The registry of content types with their fields. A type that is made or changed together with its
fields is stored in one transaction with them.
-/

namespace ContentEngine

namespace Database

/-- The type with an identifier or, if there is none, with a slug. -/
def findType? (idOrSlug : Value) : Action Session (Option Obj) := do
  let byId ←
    if idOrSlug.isIdentifier then
      row? "content_types.get_by_id" [.str (← (idOrSlug.text : Outcome String))]
    else pure none
  match byId with
  | some row => (some <$> record [] row : Outcome (Option Obj))
  | none => do
    let row ← row? "content_types.get_by_slug" [idOrSlug]
    (record? [] row : Outcome (Option Obj))

/-- The type with an identifier or a slug, which must be there. -/
def requireType (idOrSlug : Value) : Action Session Obj := do
  match ← findType? idOrSlug with
  | some t => return t
  | none => throw (noSuchType idOrSlug)

/-- The strict form of the field in a row, if it has a usable key. -/
def fieldOfRow? (row : Obj) : Outcome (Option PresentedField) := do
  PresentedField.ofStored? (← record ["config"] row)

/-- The fields of a type, in their order. -/
def getFields (idOrSlug : Value) : Action Session (List PresentedField) := do
  let rows ← transaction do
    let t ← requireType idOrSlug
    rows "content_fields.list" [Obj.get t "id"]
  let fields ← (rows.mapM fieldOfRow? : Outcome (List (Option PresentedField)))
  return PresentedField.inOrder fields

/-- A type, with its fields if they are asked for. -/
def getType? (idOrSlug : Value) (withFields : Bool) : Action Session (Option Obj) :=
  transaction do
    match ← findType? idOrSlug with
    | none => return none
    | some t =>
      if withFields then
        let fields ← getFields (Obj.get t "id")
        return some (Obj.set t "fields" (.list (fields.map fun f => .obj f.toObj)))
      else return some t

/-- The types of a kind, or all if none is named. -/
def listTypes (kind : Value) : Action Session (List Obj) := do
  let rows ← transaction
    (if kind.truthy then rows "content_types.list_by_kind" [kind] else rows "content_types.list" [])
  (records [] rows : Outcome (List Obj))

/-! ### Fields -/

/-- The identifiers of stored fields, each with the key of its field. -/
def fieldIds (rows : List Obj) : Outcome (List (Value × String)) :=
  rows.mapM fun row => do return (Obj.get row "field_key", ← (Obj.get row "id").text)

/-- The identifier of the field with a key. Of several the last one counts, and an empty one does
not. -/
def fieldId? (ids : List (Value × String)) (key : String) : Option String :=
  ((ids.reverse.find? fun entry => entry.1.isText key).map (·.2)).filter (· != "")

/-- Stores a field of a type. A field whose key was there before keeps its identifier. -/
def putField (typeId : Value) (ids : List (Value × String)) (now : String) (f : FieldInput) :
    Action Session Unit := do
  let id ←
    match fieldId? ids f.key with
    | some id => pure id
    | none => issueId
  let config ← ((Value.obj f.config).storedText : Outcome String)
  let _ ← execute "content_fields.upsert"
    [.str id, typeId, .str f.key, .str f.label, .str f.kind.name, .bool f.required, .str f.helpText,
      .int f.orderIndex, .str config, .str now, .str now]

/-- Stores fields of a type. -/
def putFields (typeId : Value) (ids : List (Value × String)) (now : String) :
    List FieldInput → Action Session Unit
  | [] => pure ()
  | f :: rest => do
    putField typeId ids now f
    putFields typeId ids now rest

/-- Replaces the fields of a type by those that a request describes. -/
def replaceFields (idOrSlug raw : Value) : Action Session (List PresentedField) := do
  let inputs ← (FieldInput.listOf raw : Outcome (List FieldInput))
  let typeId ← transaction do
    let typeId := Obj.get (← requireType idOrSlug) "id"
    let ids ← (fieldIds (← rows "content_fields.keys" [typeId]) : Outcome _)
    let _ ← execute "content_fields.delete_removed" [typeId, .ofTexts (inputs.map (·.key))]
    let now ← now
    putFields typeId ids now inputs
    let _ ← execute "content_types.touch" [.str now, typeId]
    return typeId
  getFields typeId

/-- Replaces the fields of a type if the request to make or change it carries a list of fields. -/
def replaceRequested (typeId request : Value) : Action Session Unit := do
  match Obj.get request.members "fields" with
  | .list items => do
    let _ ← replaceFields typeId (.list items)
  | _ => pure ()

/-! ### Types -/

/-- The values of a type as parameters of a statement. -/
def typeParams (v : TypeValues) : List Value :=
  [.str v.slug, .str v.kind.text, .str v.labelSingular, .str v.labelPlural, .str v.description,
    .str v.icon]

/-- Makes a type. -/
def createType (request : Value) : Action Session (Option Obj) := do
  let values ← (ContentType.prepare request [] : Outcome TypeValues)
  let id ← issueId
  let now ← now
  orConflict (fun _ => typeSlugConflict (.str values.slug)) <| transaction do
    let _ ← execute "content_types.create" (.str id :: (typeParams values ++ [.str now, .str now]))
    replaceRequested (.str id) request
  getType? (.str id) true

/-- Whether a statement that counts entries has found any. -/
def countsAny (row : Option Obj) : Outcome Bool :=
  match row with
  | none => .ok false
  | some row => ((Value.int 0).before? (Obj.get row "n")).elim (.error .incomparable) .ok

/-- Checks that a type may have a slug: the slug is fixed as soon as the type has an entry. -/
def checkSlug (t : Obj) (slug : String) : Action Session Unit := do
  if (Obj.get t "slug").isText slug then pure ()
  else
    let row ← row? "entries.count_for_type" [Obj.get t "id"]
    if ← (countsAny row : Outcome Bool) then throw (typeSlugFixed (Obj.get t "slug"))

/-- Changes a type. -/
def updateType (idOrSlug request : Value) : Action Session (Option Obj) := do
  let taken := typeSlugConflict (Obj.get request.members "slug")
  let typeId ← orConflict (fun _ => taken) <| transaction do
    let t ← requireType idOrSlug
    let values ← (ContentType.prepare request t : Outcome TypeValues)
    checkSlug t values.slug
    let _ ← execute "content_types.update"
      (typeParams values ++ [.str (← now), Obj.get t "id"])
    replaceRequested (Obj.get t "id") request
    return Obj.get t "id"
  getType? typeId true

/-- Takes a type out. Everything that belongs to it goes with it. -/
def deleteType (idOrSlug : Value) : Action Session Bool := do
  transaction do
    let t ← requireType idOrSlug
    let _ ← execute "content_types.delete" [Obj.get t "id"]
  return true

end Database

end ContentEngine
