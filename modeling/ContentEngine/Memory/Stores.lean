import ContentEngine.Memory.World
import ContentEngine.Store.Basic
import ContentEngine.Memory.Entries
import ContentEngine.Memory.Views
import ContentEngine.Service.Stores
/-!
# The stores in memory

The stores of the entry service, kept in memory.
-/

namespace ContentEngine

/-!
### Users in memory

Users are looked up by identifier, several at once. A look-up can fail; nothing else about users
does.
-/

namespace World

/-- The world in which a user has been stored, in the place of an earlier one of the same
identifier. -/
def putUser (w : World) (u : User) : World :=
  if w.users.any fun old => old.id == u.id then
    { w with users := w.users.map fun old => if old.id = u.id then u else old }
  else { w with users := w.users ++ [u] }

end World

namespace Memory

/-- Stores a user. A user that comes without an identifier gets a new one. -/
def putUser (request : Obj) : Action World User := do
  let id ←
    match ← (User.requestedId? request : Outcome (Option String)) with
    | some id => pure id
    | none => World.issueId
  let user ← (User.ofRequest id request : Outcome User)
  modify fun w => w.putUser user
  return user

/-- The users with some identifiers, in the order of these. -/
def getUsers (ids : List Value) : Action World (List User) := do
  let w ← get
  if w.usersDown then throw (userLookupFailed .null)
  return ids.filterMap fun id => w.users.find? fun u => id.isText u.id

/-- All users. -/
def listUsers : Action World (List User) := do
  return (← get).users

/-- Says whether the look-up of users fails from now on. -/
def setUsersDown (down : Bool) : Action World Unit :=
  modify fun w => { w with usersDown := down }

/-- Sets the present time. -/
def setNow (now : String) : Action World Unit :=
  modify fun w => { w with origin := { w.origin with now := now } }

/-! ### Stores -/

/-- The stores in memory. -/
def stores : Stores World where
  findType slug := getType? slug false
  fieldsOf := getFields
  listEntries typeId := do return (← listEntries typeId).map Entry.toObj
  getEntry typeId idOrSlug := do return (← getEntry? typeId idOrSlug).map Entry.toObj
  createEntry typeId values := do return (← createEntry typeId values).toObj
  updateEntry typeId id values := do return (← updateEntry? typeId id values).map Entry.toObj
  deleteEntry := deleteEntry
  versionsOf id := do return (← listVersions id).map EntryVersion.toObj
  listViews typeId := do return (← listViews typeId).map StoredView.toObj
  getUsers ids := do return (← getUsers (ids.map .str)).map User.toObj

end Memory

end ContentEngine
