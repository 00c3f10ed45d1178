import ContentEngine.Store.Basic
import ContentEngine.Memory.EntryStore
import ContentEngine.ContentType.Basic
import ContentEngine.ContentType.Field
/-!
# The world in memory

Everything that the engine keeps when it works without a database. Entries have a store of their own
(`ContentEngine.Memory.EntryStore`), and the fields of a content type stand in a table under its
identifier; all other records are kept in the order in which they were made.
-/

namespace ContentEngine

/-- A field of a content type with the record that belongs to it. -/
structure StoredField where
  id : String
  typeId : String
  input : FieldInput

/-- A stored field as an object. -/
def StoredField.toObj (f : StoredField) : Obj :=
  [("id", .str f.id), ("content_type_id", .str f.typeId)] ++ f.input.toObj

/-- An editor view as it is stored: what it was given, with the record that belongs to it. -/
structure StoredView where
  id : String
  typeId : String
  values : Obj
  createdAt : String
  updatedAt : String

namespace StoredView

/-- A stored view as a record. -/
def toObj (v : StoredView) : Obj :=
  [("id", .str v.id), ("content_type_id", .str v.typeId)] ++ v.values
    ++ [("created_at", .str v.createdAt), ("updated_at", .str v.updatedAt)]

/-- The slug of a stored view. -/
def slug (v : StoredView) : String :=
  (Obj.get v.values "slug").asText?.getD ""

/-- Whether a stored view comes no later than another in a list: by slug, then by identifier. -/
def le (a b : StoredView) : Bool :=
  decide (a.slug < b.slug) || (a.slug == b.slug && decide (a.id ≤ b.id))

end StoredView

/-- What is kept in memory. If `usersDown` holds, no user can be looked up. -/
structure World where
  origin : Origin
  types : List ContentType
  fields : Table (List StoredField)
  entries : EntryStore
  views : List StoredView
  users : List User
  usersDown : Bool

namespace World

/-- The world at the start of a session. -/
def empty : World := ⟨.start, [], [], .empty, [], [], false⟩

/-- Issues an identifier. -/
def issueId : Action World String := do
  modify fun w => { w with origin := w.origin.issue }
  return (← get).origin.latest

/-- The present time. -/
def now : Action World String := do
  return (← get).origin.now

end World

end ContentEngine
