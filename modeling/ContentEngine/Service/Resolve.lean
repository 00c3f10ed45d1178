import ContentEngine.Service.Stores
import ContentEngine.Relation.User
import ContentEngine.Display.Value
/-!
# Resolved entries

Every entry that is read carries what is known about the users that it refers to. All users are
looked up at once; if that fails the entry is shown all the same, and no user is known. In lists,
each entry may also carry its values as plain text.
-/

namespace ContentEngine

namespace Service

variable {σ : Type}

/-- What is shown to everyone of some users, under their identifiers. -/
def publicUsers (users : List Obj) : Outcome Obj := do
  let known := users.filter fun u => !(Obj.get u "id").isNull
  return Obj.ofMembers (← known.mapM fun u => do
    let shown ← Relation.publicUser u
    return (recordId shown, .obj shown))

/-- Looks some users up. If that fails, none is known. -/
def lookUpUsers (s : Stores σ) (ids : List String) : Action σ Obj :=
  if ids.isEmpty then pure []
  else
    tryCatch
      (do
        let users ← s.getUsers ids
        publicUsers users)
      fun _ => pure []

/-- What is known about the users that some entries of a type refer to. -/
def userContext (s : Stores σ) (typeId : String) (entries : List Obj) :
    Action σ Display.UserContext := do
  if typeId = "" then return .empty
  let fields ← s.fieldsOf typeId
  let settings ← (Relation.userFields (fields.map fun f => .obj f.toObj) : Outcome Obj)
  let users ← lookUpUsers s (Relation.collectUsers (Obj.keys settings) (entries.map .obj))
  return ⟨settings, users⟩

/-- An entry with what is known about its users. -/
def withUsers (context : Display.UserContext) (entry : Obj) : Obj :=
  Obj.set entry "_resolved"
    (.obj [("userFields", .obj context.fields), ("usersById", .obj context.users)])

/-- Some entries of a type with what is known about their users. -/
def resolve (s : Stores σ) (typeId : String) (entries : List Obj) : Action σ (List Obj) := do
  let context ← userContext s typeId entries
  return entries.map (withUsers context)

/-- An entry of a type with what is known about its users. -/
def resolveOne (s : Stores σ) (typeId : String) (entry : Obj) : Action σ Obj := do
  return withUsers (← userContext s typeId [entry]) entry

/-- A resolved entry with its values as plain text. -/
def withTexts (fields : List PresentedField) (entry : Obj) : Outcome Obj := do
  let context := Display.UserContext.ofValue (Obj.get entry "_resolved")
  let texts ←
    Display.entryTexts context (Obj.getObj entry "data") (fields.map fun f => f.toObj)
  return Obj.set entry "_display" (.obj texts)

end Service

end ContentEngine
