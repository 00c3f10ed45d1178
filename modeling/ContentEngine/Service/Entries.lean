import ContentEngine.Service.Resolve
import ContentEngine.Service.Options
import ContentEngine.Entry.Normal
import ContentEngine.View.Selection
/-!
# The entry service

Reading and writing entries of content types that are named by their slugs. What is written is
normalized first, and its title may come from the template of the view that is in effect for the
writer's role; what is read is resolved. Mail addresses in what is written go by a reader, `mail`.
-/

namespace ContentEngine

namespace Service

variable {σ : Type}

/-- The content type with a slug, which must be there. -/
def contentType (s : Stores σ) (slug : String) : Action σ Obj := do
  match ← s.findType slug with
  | some t => return t
  | none =>
    throw (.notFound "Content type not found" (some "type_slug") (.obj [("slug", .str slug)]))

/-- The fault of an entry that is not there. -/
def noSuchEntry (idOrSlug : Value) : Fault :=
  .notFound "Entry not found" (some "id") (.obj [("id", idOrSlug)])

/-- The entry of a type with an identifier or a slug, which must be there. -/
def requireEntry (s : Stores σ) (typeId : String) (idOrSlug : Value) : Action σ Obj := do
  match ← s.getEntry typeId idOrSlug with
  | some entry => return entry
  | none => throw (noSuchEntry idOrSlug)

/-! ### Reading -/

/-- The entries of a type, with their values as plain text if these are asked for. -/
def listEntries (s : Stores σ) (slug : String) (withDisplay : Bool) : Action σ (List Obj) := do
  let t ← contentType s slug
  let entries ← s.listEntries (recordId t)
  let entries ← resolve s (recordId t) entries
  if withDisplay then
    let fields ← s.fieldsOf (recordId t)
    (entries.mapM (withTexts fields) : Outcome (List Obj))
  else return entries

/-- The options of a type: its entries, or what can be picked for one of its fields. -/
def options (s : Stores σ) (slug : String) (field : Value) : Action σ Obj := do
  let t ← contentType s slug
  if !field.truthy then
    return [("options", .list (← entryOptions s slug))]
  let key ← (field.snakeCase : Outcome String)
  match (← s.fieldsOf (recordId t)).find? fun f => f.definition.key == key with
  | some f => fieldOptions s (.obj f.toObj)
  | none => throw (.notFound "Field not found" (some "field") (.obj [("field", field)]))

/-- An entry of a type. -/
def getEntry (s : Stores σ) (slug : String) (idOrSlug : Value) : Action σ Obj := do
  let t ← contentType s slug
  let entry ← requireEntry s (recordId t) idOrSlug
  resolveOne s (recordId t) entry

/-- The versions of an entry of a type. -/
def listVersions (s : Stores σ) (slug : String) (idOrSlug : Value) : Action σ (List Obj) := do
  let t ← contentType s slug
  let entry ← requireEntry s (recordId t) idOrSlug
  s.versionsOf (recordId entry)

/-! ### Writing -/

/-- The status that a request asks for. It must be a known one; a blank one counts as not given. -/
def requestedStatus (request : Obj) : Outcome String :=
  let asked := (Obj.get request "status").trimmedText
  let status := if asked = "" then usualStatus else asked
  if entryStatuses.contains status then .ok status
  else
    .error (.validation "Unknown entry status" (some "status") (.obj [("status", .str status)]))

/-- The data that a request carries. -/
def requestedData (request : Obj) : Outcome Value :=
  let data := Obj.get request "data"
  if data.isNull || data.isObj then .ok (data.orElse (.obj []))
  else .error (.validation "Entry data must be an object" (some "data") .null)

/-- The values that a request gives to an entry of a type, for a writer in some role, where
addresses go by a reader. -/
def prepareWith (mail : Format.MailReader) (s : Stores σ) (typeId : String)
    (request role : Value) : Action σ EntryValues := do
  match request.asObj? with
  | none => throw (.validation "Entry payload must be an object" none .null)
  | some request =>
    let given ← (requestedData request : Outcome Value)
    let status ← (requestedStatus request : Outcome String)
    let fields ← s.fieldsOf typeId
    let declared := Value.list (fields.map fun f => .obj f.toObj)
    let data ← (Entry.normalDataWith mail declared given : Outcome Obj)
    let views ← s.listViews typeId
    let core ← (EditorView.effectiveCore views role : Outcome Obj)
    let (title, slug) ←
      (titleAndSlug core (Obj.get request "title") (Obj.get request "slug") (.obj data)
        : Outcome (String × String))
    return { title := .str title, slug, status := .str status, data := .obj data }

/-- Makes an entry of a type, where addresses go by a reader. -/
def createEntryWith (mail : Format.MailReader) (s : Stores σ) (slug : String)
    (request role : Value) : Action σ Obj := do
  let t ← contentType s slug
  let values ← prepareWith mail s (recordId t) request role
  let entry ← s.createEntry (recordId t) values
  resolveOne s (recordId t) entry

/-- Changes an entry of a type, where addresses go by a reader. -/
def updateEntryWith (mail : Format.MailReader) (s : Stores σ) (slug : String)
    (idOrSlug request role : Value) : Action σ Obj := do
  let t ← contentType s slug
  let current ← requireEntry s (recordId t) idOrSlug
  let values ← prepareWith mail s (recordId t) request role
  match ← s.updateEntry (recordId t) (recordId current) values with
  | some entry => resolveOne s (recordId t) entry
  | none => throw (noSuchEntry idOrSlug)

/-- Makes an entry of a type. -/
def createEntry (s : Stores σ) (slug : String) (request role : Value) : Action σ Obj :=
  createEntryWith Format.readEmail? s slug request role

/-- Changes an entry of a type. -/
def updateEntry (s : Stores σ) (slug : String) (idOrSlug request role : Value) : Action σ Obj :=
  updateEntryWith Format.readEmail? s slug idOrSlug request role

/-- Takes an entry of a type out. -/
def deleteEntry (s : Stores σ) (slug : String) (idOrSlug : Value) : Action σ Unit := do
  let t ← contentType s slug
  let current ← requireEntry s (recordId t) idOrSlug
  let found ← s.deleteEntry (recordId t) (recordId current)
  if !found then throw (noSuchEntry idOrSlug)

end Service

end ContentEngine
