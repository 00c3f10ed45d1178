import ContentEngine.Service.Stores
import ContentEngine.Relation.Choice
/-!
# Options

What an editor can pick: the entries of a content type, or the options of a field. The options of a
field are the choices that it lists, or they come from the entries of another type, for choice
fields with a source as for relations.
-/

namespace ContentEngine

namespace Service

variable {σ : Type}

/-- An entry as an option. Its label is its title, its slug or its identifier. -/
def entryOption (entry : Obj) : Outcome Value := do
  let id ← (Obj.get entry "id").text
  let label := ((Obj.get entry "title").orElse (Obj.get entry "slug")).orElse (.str id)
  return .obj [("value", .str id), ("label", label)]

/-- The entries of the type with a slug as options. A type that is not there has none. -/
def entryOptions (s : Stores σ) (slug : String) : Action σ (List Value) := do
  match ← s.findType slug with
  | none => return []
  | some t =>
    let entries ← s.listEntries (recordId t)
    (entries.mapM entryOption : Outcome (List Value))

/-- The options that come from the entries of the type with a slug. -/
def sourcedOptions (s : Stores σ) (slug : String) (field : Value) : Action σ Obj := do
  let entries ←
    match ← s.findType slug with
    | some t => s.listEntries (recordId t)
    | none => pure []
  let options ← (Relation.dynamicChoices field entries : Outcome (List Value))
  return [("options", .list options)]

/-- The options of a relation with the fields of its target that may be edited in place. -/
def relationOptions (s : Stores σ) (field : Value) : Action σ Obj := do
  let target ← (Relation.target? field : Outcome (Option String))
  let found ←
    match target with
    | some slug => s.findType slug
    | none => pure none
  match found with
  | none => return [("options", .list []), ("inlineFields", .list [])]
  | some t =>
    let options ← entryOptions s (target.getD "")
    let fields ← s.fieldsOf (recordId t)
    let inline ←
      (Relation.inlineFields (fields.map fun f => f.toObj) (fieldConfig field) : Outcome (List Obj))
    return [("options", .list options), ("inlineFields", .list (inline.map .obj))]

/-- The options of a field. -/
def fieldOptions (s : Stores σ) (field : Value) : Action σ Obj := do
  match ← (Relation.choiceSource? field : Outcome (Option String)) with
  | some slug => sourcedOptions s slug field
  | none =>
    if (Obj.get field.members "type").isText "relation" then relationOptions s field
    else return [("options", .list (Obj.getList (fieldConfig field) "choices"))]

end Service

end ContentEngine
