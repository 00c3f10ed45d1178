import ContentEngine.Format.Canonical
import ContentEngine.Repeater.Prune
/-!
# The data of an entry

What is stored of the data that a form sends: values move from the aliases of fields to their keys,
values of known formats take their canonical form, and what repeaters hold below their depth is
dropped. Everything else stays, also what no field declares. Mail addresses go by a reader, `mail`.
-/

namespace ContentEngine

namespace Entry

/-- The key of a field. -/
def fieldKey (field : Obj) : Outcome String :=
  (Obj.firstTruthy field ["key", "field_key"]).snakeCase

/-- Data in which the value under the alias of a key stands under the key itself, unless the key is
taken. -/
def moveAlias (data : Obj) (key : String) : Obj :=
  let camel := camelCase key
  if key != "" && camel != key && Obj.has data camel && !Obj.has data key then
    Obj.set (Obj.erase data camel) key (Obj.get data camel)
  else data

/-- The keys of some fields. -/
def fieldKeys (fields : List Obj) : Outcome (List String) :=
  fields.mapM fieldKey

/-- Data in which the values of fields stand under their keys. -/
def moveAliases (fields : List Obj) (data : Obj) : Outcome Obj := do
  return (← fieldKeys fields).foldl moveAlias data

/-- What is stored for the value of a field. -/
def storedValue (mail : Format.MailReader) (field : Obj) (v : Value) : Outcome Value := do
  match ← FieldKind.ofValue (Obj.get field "type") with
  | .repeater => do
    let config ← Repeater.configOf ((Obj.get field "config").orElse (.obj []))
    (Repeater.ofConfig config).prune 1 v
  | kind => return kind.canonicalValue mail v

/-- Data in which the values of some fields are what is stored for them. Each field is given with
its key. -/
def storeValues (mail : Format.MailReader) (data : Obj) : List (String × Obj) → Outcome Obj
  | [] => .ok data
  | (key, field) :: rest =>
    if Obj.has data key then do
      let v ← storedValue mail field (Obj.get data key)
      storeValues mail (Obj.set data key v) rest
    else storeValues mail data rest

/-- The fields of a list that have a key, each with the key. -/
def keyedFields (fields : Value) : Outcome (List (String × Obj)) := do
  let objects := (fields.asItems?.getD []).filterMap Value.asObj?
  let keyed ← objects.mapM fun field => do return (← fieldKey field, field)
  return keyed.filter fun entry => entry.1 != ""

/-- What is stored of the data of an entry where addresses go by a reader. What is no object counts
as an empty one. -/
def normalDataWith (mail : Format.MailReader) (fields data : Value) : Outcome Obj := do
  match data.asObj? with
  | none => return []
  | some data =>
    let declared ← keyedFields fields
    storeValues mail ((declared.map (·.1)).foldl moveAlias data) declared

/-- What is stored of the data of an entry. -/
def normalData (fields data : Value) : Outcome Obj :=
  normalDataWith Format.readEmail? fields data

end Entry

end ContentEngine
