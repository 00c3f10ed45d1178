import ContentEngine.Value.Basic
/-!
# Entries

An entry of a content type: a title, a slug that no other entry of the type has, a status, and data.
Whenever an entry is changed, what it was before is kept as a version.
-/

namespace ContentEngine

/-- What can be said about an entry by those who write it. -/
structure EntryValues where
  title : Value
  slug : String
  status : Value
  data : Value

/-- An entry. -/
structure Entry where
  id : String
  typeId : String
  values : EntryValues
  createdAt : String
  updatedAt : String

/-- What an entry was before it was changed. -/
structure EntryVersion where
  id : String
  entryId : String
  values : EntryValues
  createdAt : String

/-- The statuses that an entry can have. -/
def entryStatuses : List String := ["draft", "published", "archived"]

/-- The status of an entry for which none is given. -/
def usualStatus : String := "draft"

namespace EntryValues

/-- The values of an entry as an object. -/
def toObj (v : EntryValues) : Obj :=
  [("title", v.title), ("slug", .str v.slug), ("status", v.status), ("data", v.data)]

/-- The values that an object describes. -/
def ofObj (o : Obj) : EntryValues where
  title := Obj.get o "title"
  slug := (Obj.get o "slug").asText?.getD ""
  status := (Obj.get o "status").orElse (.str usualStatus)
  data := (Obj.get o "data").orElse (.obj [])

end EntryValues

/-- An entry as an object. -/
def Entry.toObj (e : Entry) : Obj :=
  [("id", .str e.id), ("content_type_id", .str e.typeId)] ++ e.values.toObj
    ++ [("created_at", .str e.createdAt), ("updated_at", .str e.updatedAt)]

/-- A version as an object. -/
def EntryVersion.toObj (v : EntryVersion) : Obj :=
  [("id", .str v.id), ("entry_id", .str v.entryId)] ++ v.values.toObj
    ++ [("created_at", .str v.createdAt)]

end ContentEngine
