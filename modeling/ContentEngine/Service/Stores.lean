import ContentEngine.Store.Basic
import ContentEngine.Entry.Basic
import ContentEngine.ContentType.Field
/-!
# What the service needs of its stores

The entry service works over any place that keeps content types, entries, views and users. It sees
records as objects, since a database may hand out more than was put in.
-/

namespace ContentEngine

/-- The stores under an entry service, as actions on a state. Types are found by identifier or slug;
everything that belongs to a type is found by the type's identifier. -/
structure Stores (σ : Type) where
  findType : String → Action σ (Option Obj)
  fieldsOf : String → Action σ (List PresentedField)
  listEntries : String → Action σ (List Obj)
  getEntry : String → Value → Action σ (Option Obj)
  createEntry : String → EntryValues → Action σ Obj
  updateEntry : String → String → EntryValues → Action σ (Option Obj)
  deleteEntry : String → String → Action σ Bool
  versionsOf : String → Action σ (List Obj)
  listViews : String → Action σ (List Obj)
  getUsers : List String → Action σ (List Obj)

/-- The identifier of a record. -/
def recordId (record : Obj) : String :=
  (Obj.get record "id").asText?.getD ""

end ContentEngine
