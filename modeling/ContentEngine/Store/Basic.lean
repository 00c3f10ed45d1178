import ContentEngine.Fault
import ContentEngine.Text.Case
import ContentEngine.Value.Literal
import ContentEngine.Calendar
/-!
# Stores

What stores have in common, wherever they keep their records: the faults with which they refuse
something, the users that they are told about, and the actions that they carry out.
-/

namespace ContentEngine

/-!
### What stores refuse

The faults of stores. Every place that keeps records refuses the same things in the same words.
-/

/-- The fault of a type that is not there. -/
def noSuchType (id : Value) : Fault :=
  .notFound "Content type not found" (some "content_type_id") (.obj [("id", id)])

/-- The fault of a slug that belongs to another type. -/
def typeSlugConflict (slug : Value) : Fault :=
  .conflict "Content type slug already exists" (some "slug") (.obj [("slug", slug)])

/-- The fault of a type that has entries and is to change its slug. -/
def typeSlugFixed (slug : Value) : Fault :=
  .conflict "Content type slug cannot change once entries exist" (some "slug")
    (.obj [("slug", slug)])

/-- The fault of a slug that belongs to another entry. -/
def entrySlugConflict (detail : Obj) : Fault :=
  .conflict "Slug already exists for this content type" (some "slug") (.obj detail)

/-- The fault of a slug that belongs to another view. -/
def viewSlugConflict (slug : Value) : Fault :=
  .conflict "Editor view slug already exists" (some "slug") (.obj [("slug", slug)])

/-- The fault of a look-up of users that failed. -/
def userLookupFailed (detail : Value) : Fault :=
  .issue ⟨.transientStore, "User lookup failed", some "users", detail⟩

/-!
### Users

Users are made elsewhere; the engine only keeps what it is told about them.
-/

/-- A user. -/
structure User where
  id : String
  email : Value
  name : Value
  role : Option String
  status : Value

namespace User

/-- A user as an object. -/
def toObj (u : User) : Obj :=
  [("id", .str u.id), ("email", u.email), ("name", u.name), ("role", .ofText? u.role),
    ("status", u.status)]

/-- The identifier that a request gives to a user, if it gives one. -/
def requestedId? (request : Obj) : Outcome (Option String) :=
  let id := Obj.get request "id"
  if id.truthy then some <$> id.text else .ok none

/-- The user that a request describes, under an identifier. Roles are in capital letters. -/
def ofRequest (id : String) (request : Obj) : Outcome User := do
  let role := upperText (← (Obj.get request "role").presentText)
  return {
    id
    email := Obj.get request "email"
    name := Obj.get request "name"
    role := if role = "" then none else some role
    status := (Obj.get request "status").orElse (.str "active") }

end User

/-!
### Actions on a store

An action reads and changes a state and gives a result or a fault. What it has changed stays
changed, also if it ends in a fault. Where times and new identifiers come from is part of the state,
so an action has one outcome only.
-/

/-- An action on a state. -/
abbrev Action (σ : Type) := ExceptT Fault (StateM σ)

/-- Runs an action. -/
def Action.run {σ α : Type} (action : Action σ α) (state : σ) : Outcome α × σ :=
  StateT.run (ExceptT.run action) state

/-- Where times and identifiers come from: the present time, and how many identifiers have been
issued. -/
structure Origin where
  now : String
  issued : Nat
deriving Repr, DecidableEq

namespace Origin

/-- The origin at the start of a session. -/
def start : Origin := ⟨"2024-01-01T00:00:00Z", 0⟩

/-- The identifier with a number. Numbers from 16 ^ 12 on take more than twelve digits, so that no
two of them have one identifier. -/
def identifier (n : Nat) : String :=
  "00000000-0000-4000-8000-" ++ String.ofList (hexText (12 + n / Nat.pow 16 12) n)

/-- The origin after one more identifier has been issued. -/
def issue (o : Origin) : Origin :=
  { o with issued := o.issued + 1 }

/-- The identifier that was issued last. -/
def latest (o : Origin) : String :=
  identifier o.issued

end Origin

end ContentEngine
