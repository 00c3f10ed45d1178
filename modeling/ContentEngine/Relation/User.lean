import ContentEngine.Field.Reference
import ContentEngine.Value.Equal
/-!
# References to users

The fields of a content type that refer to users, and the users that some entries refer to through
them. A user is referred to by an identifier; everything else in such a field is shown, but never
looked up.
-/

namespace ContentEngine

/-- Whether a value is the identifier of a record: an identifier, or a text of one with or without
blanks at its ends. -/
def Value.isIdentifier : Value → Bool
  | .identifier _ => true
  | .str s => (Identifier.ofText? (trim s)).isSome
  | _ => false

/-- The text under which the record with an identifier is looked up. -/
def Value.identifierText? : Value → Option String
  | .identifier u => some u.text
  | .str s => if (Identifier.ofText? (trim s)).isSome then some (trim s) else none
  | _ => none

namespace Relation

/-- The settings of a field that refers to users, with its key. Any other field has none. -/
def userField? (field : Value) : Outcome (Option (String × UserReference)) := do
  match field.asObj? with
  | none => return none
  | some o =>
    match (Obj.get o "type").isText "relation_user", Obj.firstTruthy o ["key", "field_key"] with
    | true, .str key => return some (key, ← UserReference.ofConfig (Obj.getObj o "config"))
    | _, _ => return none

/-- The settings of the fields that refer to users, under their keys. -/
def userFields (fields : List Value) : Outcome Obj := do
  let settings ← fields.mapM userField?
  return Obj.ofMembers ((settings.filterMap fun s => s).map fun (key, r) => (key, .obj r.toObj))

/-- A list of texts, each at its first place only. -/
def firstPlaces (seen : List String) : List String → List String
  | [] => []
  | text :: rest =>
    if text ∈ seen then firstPlaces seen rest else text :: firstPlaces (text :: seen) rest

/-- The identifiers of the users that an entry refers to under some keys. -/
def referredUsers (keys : List String) (entry : Value) : List String :=
  let data := Obj.getObj entry.members "data"
  keys.flatMap fun key =>
    ((Obj.get data key).asList?.getD [Obj.get data key]).filterMap Value.identifierText?

/-- The identifiers of the users that some entries refer to under some keys, in the order in which
they are first referred to. -/
def collectUsers (keys : List String) (entries : List Value) : List String :=
  firstPlaces [] (entries.flatMap (referredUsers keys))

/-- What is shown of a user to everyone. -/
def publicUser (user : Obj) : Outcome Obj := do
  return [("id", .str (← (Obj.get user "id").text)), ("email", Obj.get user "email"),
    ("name", Obj.get user "name"), ("role", Obj.get user "role"), ("status", Obj.get user "status")]

end Relation

end ContentEngine
