import ContentEngine.Database.Session
import ContentEngine.Entry.Basic
import ContentEngine.Json.Writer
import ContentEngine.Relation.User
import ContentEngine.Store.Basic
import ContentEngine.Value.Number
/-!
# Entries in a database

An entry is changed in one transaction with the version that keeps what it was before.
-/

namespace ContentEngine

namespace Database

/-- An entry as a record. -/
def entryRecord? (row : Option Obj) : Outcome (Option Obj) :=
  record? ["data"] row

/-- The entries of a type. -/
def listEntries (typeId : Value) : Action Session (List Obj) := do
  let rows ← transaction (rows "entries.list" [typeId])
  (records ["data"] rows : Outcome (List Obj))

/-- The number of entries of a type. -/
def countEntries (typeId : Value) : Action Session Int := do
  match ← transaction (row? "entries.count_for_type" [typeId]) with
  | some row => ((Obj.get row "n").wholePart : Outcome Int)
  | none => return 0

/-- The entry of a type that has an identifier, if the value is one, or else a slug. -/
def getEntry? (typeId idOrSlug : Value) : Action Session (Option Obj) := do
  let name := if idOrSlug.isIdentifier then "entries.get_by_id" else "entries.get_by_slug"
  let row ← transaction do
    let text ← (idOrSlug.text : Outcome String)
    row? name [.str (trim text), typeId]
  (entryRecord? row : Outcome (Option Obj))

/-- The conflict of an entry whose slug belongs to another one. -/
def entryConflict (values : EntryValues) (text : String) : Fault :=
  entrySlugConflict [("slug", .str values.slug), ("error", .str text)]

/-- The values of an entry as parameters of a statement. -/
def entryParams (values : EntryValues) : Outcome (List Value) := do
  return [values.title, .str values.slug, values.status, .str (← values.data.storedText)]

/-- Makes an entry. -/
def createEntry? (typeId : Value) (values : EntryValues) : Action Session (Option Obj) := do
  let id ← issueId
  let now ← now
  let row ← orConflict (entryConflict values) <| transaction do
    let params ← (entryParams values : Outcome (List Value))
    row? "entries.create" ([.str id, typeId] ++ params ++ [.str now, .str now])
  (entryRecord? row : Outcome (Option Obj))

/-- Changes an entry of a type. -/
def updateEntry? (typeId id : Value) (values : EntryValues) : Action Session (Option Obj) := do
  let row ← orConflict (entryConflict values) <| transaction do
    let versionId ← issueId
    let now ← now
    let _ ← execute "entry_versions.snapshot" [.str versionId, .str now, id, typeId]
    let params ← (entryParams values : Outcome (List Value))
    row? "entries.update" (params ++ [.str now, id, typeId])
  (entryRecord? row : Outcome (Option Obj))

/-- Takes an entry of a type out with its versions, and says whether it was there. -/
def deleteEntry (typeId id : Value) : Action Session Bool := do
  let count ← transaction do
    let _ ← execute "entry_versions.delete" [id]
    affected "entries.delete" [id, typeId]
  return decide (0 < count)

/-- Takes all entries of a type out, and says how many there were. -/
def deleteEntriesOf (typeId : Value) : Action Session Int :=
  transaction (affected "entries.delete_for_type" [typeId])

/-- The versions of an entry. -/
def listVersions (entryId : Value) : Action Session (List Obj) := do
  let rows ← transaction (rows "entry_versions.list" [entryId])
  (records ["data"] rows : Outcome (List Obj))

end Database

end ContentEngine
