import ContentEngine.Memory.Registry
import ContentEngine.Relation.User
/-!
# Entries in memory

Within a content type slugs are distinct. Entries are listed by the time they were made, the newest
first; of entries made at one time the last one comes first. A change keeps what the entry was
before as its newest version.
-/

namespace ContentEngine

namespace Memory

/-- The entries of a type, the newest first. -/
def listEntries (typeId : String) : Action World (List Entry) := do
  let s := (← get).entries
  return (s.ofType typeId).mergeSort s.newerFirst

/-- The number of entries of a type. -/
def countEntries (typeId : String) : Action World Nat := do
  return (← get).entryCount typeId

/-- The entry of a type that has an identifier, if the value is one, or else a slug. -/
def getEntry? (typeId : String) (idOrSlug : Value) : Action World (Option Entry) := do
  let entries := (← get).entries.ofType typeId
  match idOrSlug.identifierText? with
  | some id => return entries.find? fun e => e.id == lowerText id
  | none => return entries.find? fun e => idOrSlug.isText e.values.slug

/-- Makes an entry. -/
def createEntry (typeId : String) (values : EntryValues) : Action World Entry := do
  if (← get).entries.slugTaken typeId values.slug none then
    throw (entrySlugConflict [("slug", .str values.slug)])
  let now ← World.now
  let id ← World.issueId
  let entry : Entry := ⟨id, typeId, values, now, now⟩
  modify fun w => { w with entries := w.entries.add entry }
  return entry

/-- Changes an entry of a type. -/
def updateEntry? (typeId id : String) (values : EntryValues) : Action World (Option Entry) := do
  match (← get).entries.find? typeId id with
  | none => return none
  | some entry =>
    if (← get).entries.slugTaken typeId values.slug (some id) then
      throw (entrySlugConflict [("slug", .str values.slug)])
    let now ← World.now
    let versionId ← World.issueId
    let changed : Entry := { entry with values := values, updatedAt := now }
    modify fun w =>
      { w with entries := w.entries.replace id changed ⟨versionId, id, entry.values, now⟩ }
    return some changed

/-- Takes an entry of a type out with its versions, and says whether it was there. -/
def deleteEntry (typeId id : String) : Action World Bool := do
  let found := ((← get).entries.find? typeId id).isSome
  modify fun w => { w with entries := w.entries.delete typeId id }
  return found

/-- Takes all entries of a type out with their versions, and says how many there were. -/
def deleteEntriesOf (typeId : String) : Action World Nat := do
  let entries := (← get).entries.ofType typeId
  modify fun w => { w with entries := w.entries.deleteType typeId }
  return entries.length

/-- The versions of an entry, the newest first. -/
def listVersions (entryId : String) : Action World (List EntryVersion) := do
  return (← get).entries.versionsOf entryId

end Memory

end ContentEngine
