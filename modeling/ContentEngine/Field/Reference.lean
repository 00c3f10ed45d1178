import ContentEngine.Json.Stored
import ContentEngine.Text.Search
import ContentEngine.Value.Literal
/-!
# References

Two kinds of field point at other records. A user reference says how many users it takes, how they
are shown and which of them are offered. A relation names the content type that it leads to, under
one of the many keys that have been in use for it.

A field carries its configuration under `config`, as an object or as JSON text, or under the older
key `options`.
-/

namespace ContentEngine

/-- The object that a configuration is: itself, or what its text denotes. Everything else
is empty. -/
def Value.toConfig (v : Value) : Obj :=
  match v with
  | .str text => if isBlankText text then [] else ((parseJson text).getD .null).members
  | _ => v.members

/-- The configuration of a field, as it was written. -/
def fieldConfig (field : Value) : Obj :=
  match field.asObj? with
  | none => []
  | some o =>
    let config := (Obj.get o "config").toConfig
    if config.isEmpty then Obj.getObj o "options" else config

/-! ### User references -/

/-- How a user is shown. -/
inductive UserDisplay where
  | nameEmail
  | name
  | email
deriving Repr, DecidableEq

namespace UserDisplay

/-- The name of a way to show a user. -/
def text : UserDisplay → String
  | nameEmail => "name_email"
  | name => "name"
  | email => "email"

/-- The way with a name. Name and address together is the usual one. -/
def ofText (s : String) : UserDisplay :=
  if s = "name" then name else if s = "email" then email else nameEmail

end UserDisplay

mutual

/-- Whether a value can be looked up in a set: it must have no part that can change. -/
def Value.isHashable : Value → Bool
  | .list _ | .obj _ | .set _ | .table _ => false
  | .tuple items => allHashable items
  | _ => true

/-- Whether all of some values can be looked up in a set. -/
def allHashable : List Value → Bool
  | [] => true
  | item :: rest => item.isHashable && allHashable rest

end

/-- The settings of a user reference. -/
structure UserReference where
  multiple : Bool
  display : UserDisplay
  roleFilter : String
  onlyActive : Bool
deriving Repr, DecidableEq

namespace UserReference

/-- The settings that a configuration holds. Only active users are offered unless it
says otherwise. -/
def ofConfig (config : Obj) : Outcome UserReference := do
  let display := Obj.get config "display"
  if !display.isHashable then throw .unhashable
  let role ← (Obj.firstTruthy config ["roleFilter", "role_filter"]).presentText
  let active := Obj.getEither config "onlyActive" "only_active"
  return {
    multiple := (Obj.get config "multiple").truthy
    display := .ofText (display.asText?.getD "")
    roleFilter := trim role
    onlyActive := active.isNull || active.truthy }

/-- The settings as an object. -/
def toObj (r : UserReference) : Obj :=
  [("multiple", .bool r.multiple), ("display", .str r.display.text),
    ("roleFilter", .str r.roleFilter), ("onlyActive", .bool r.onlyActive)]

/-- A configuration with the settings in their current form. -/
def normalConfig (config : Obj) : Outcome Obj := do
  let settings ← ofConfig config
  return Obj.erase (Obj.erase (Obj.merge config settings.toObj) "role_filter") "only_active"

end UserReference

/-! ### Relations -/

namespace Relation

/-- The slug that a value names a content type by. An object names it under one of several keys. -/
def slugOf? (v : Value) : Outcome (Option String) :=
  match v.asObj? with
  | some o =>
    let named :=
      Obj.firstTruthy o ["slug", "contentType", "relatedType", "content_type_slug", "id"]
    if named.truthy then do return some (← named.text) else .ok none
  | none => if v.truthy then do return some (← v.text) else .ok none

/-- The values under which a field may name its target, the most specific one first. -/
def candidates (field : Value) : List Value :=
  let config := fieldConfig field
  let relation := Obj.getObj config "relation"
  (["slug", "content_type_slug", "contentType", "content_type", "target"].map (Obj.get relation))
    ++ (["relatedType", "contentType", "targetType", "target"].map (Obj.get config))
    ++ (["relatedType", "contentType"].map (Obj.get field.members))

/-- The first slug that one of some values names. -/
def firstSlug? : List Value → Outcome (Option String)
  | [] => .ok none
  | v :: rest => do
    match ← slugOf? v with
    | some slug => if slug = "" then firstSlug? rest else return some slug
    | none => firstSlug? rest

/-- The slug of the content type that a relation field leads to. -/
def target? (field : Value) : Outcome (Option String) :=
  firstSlug? (candidates field)

/-- The configuration of a relation with its target under one key. -/
def normalConfig (config : Obj) : Outcome Obj := do
  match ← target? (.obj [("config", .obj config)]) with
  | some slug => return Obj.set config "relatedType" (.str slug)
  | none => return config

end Relation

end ContentEngine
