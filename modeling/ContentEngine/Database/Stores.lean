import ContentEngine.Database.Session
import ContentEngine.Relation.User
import ContentEngine.Store.Basic
import ContentEngine.Database.Registry
import ContentEngine.Database.Entries
import ContentEngine.Database.Views
import ContentEngine.Service.Stores
/-!
# The stores in a database

The stores of the entry service, kept in a database, and the tables that they need.
-/

namespace ContentEngine

/-!
### Users in a database

Several users are looked up with one statement. If it fails, that is an issue from which callers can
recover.
-/

namespace Database

/-- An action in which a statement that fails is reported as a failed look-up of users. -/
def orLookupFailed {α : Type} (action : Action Session α) : Action Session α :=
  tryCatch action fun
    | .statement _ text => throw (userLookupFailed (.obj [("error", .str text)]))
    | fault => throw fault

/-- The users with some identifiers. What is no identifier names no user. -/
def getUsers (ids : List Value) : Action Session (List Obj) := do
  let ids ← ((ids.filter (·.isIdentifier)).mapM Value.text : Outcome (List String))
  if ids.isEmpty then return []
  let rows ← orLookupFailed (transaction (rows "users.get_many" [.ofTexts ids]))
  (records [] rows : Outcome (List Obj))

/-- Stores a user. A user that comes without an identifier gets a new one. -/
def putUser? (request : Obj) : Action Session (Option Obj) := do
  let row ← transaction do
    let id ←
      match ← (User.requestedId? request : Outcome (Option String)) with
      | some id => pure id
      | none => issueId
    let user ← (User.ofRequest id request : Outcome User)
    row? "users.upsert" [.str user.id, user.email, user.name, .ofText? user.role, user.status]
  (record? [] row : Outcome (Option Obj))

/-! ### Tables and stores -/

/-- The statements that make the tables and the index, unless they are there. -/
def schema : List String :=
  ["content_types.ensure", "content_fields.ensure", "entries.ensure", "entry_versions.ensure",
    "entry_editor_views.ensure", "users.ensure", "entries.ensure_type_idx"]

/-- Makes the tables that are not there. -/
def ensureSchema : Action Session Unit :=
  transaction (schema.forM fun name => do
    let _ ← execute name [])

/-- An entry that has been made. -/
def madeEntry (typeId : String) (values : EntryValues) : Action Session Obj := do
  match ← createEntry? (.str typeId) values with
  | some entry => return entry
  | none => throw .noRow

/-- The stores in a database. -/
def stores : Stores Session where
  findType slug := getType? (.str slug) false
  fieldsOf typeId := getFields (.str typeId)
  listEntries typeId := listEntries (.str typeId)
  getEntry typeId idOrSlug := getEntry? (.str typeId) idOrSlug
  createEntry := madeEntry
  updateEntry typeId id := updateEntry? (.str typeId) (.str id)
  deleteEntry typeId id := deleteEntry (.str typeId) (.str id)
  versionsOf id := listVersions (.str id)
  listViews typeId := listViews (.str typeId)
  getUsers ids := getUsers (ids.map .str)

end Database

end ContentEngine
