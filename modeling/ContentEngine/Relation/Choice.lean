import ContentEngine.Field.Reference
import ContentEngine.Value.Equal
/-!
# Options from other entries

The options of a choice field may come from the entries of a content type, and a relation may let
its target be edited in place. Both are settings of the field.
-/

namespace ContentEngine

namespace Relation

/-- The kinds of field whose options may come from entries. -/
def sourcedKinds : List String := ["radio", "dropdown", "checkbox", "multiselect"]

/-- The slug of the content type whose entries are the options of a field, if there is one. -/
def choiceSource? (field : Value) : Outcome (Option String) := do
  match field.asObj? with
  | none => return none
  | some o =>
    let kind := Obj.get o "type"
    if !kind.isHashable then throw .unhashable
    let source := Obj.get (fieldConfig field) "sourceType"
    if sourcedKinds.any kind.isText && source.truthy then return some (← source.text)
    else return none

/-- An option that stands for a text. -/
def optionOf (text : String) : Value :=
  .obj [("value", .str text), ("label", .str text)]

/-- What an entry is called as an option: the value under a key of its data, its title, or its
identifier. -/
def optionValue (key : String) (entry : Obj) : Value :=
  let data := Obj.getObj entry "data"
  let title := (Obj.get? data "title").getD (Obj.get entry "title")
  ((Obj.get data key).orIfNull title).orIfNull (Obj.get entry "id")

/-- The options that some entries make up for a field. -/
def dynamicChoices (field : Value) (entries : List Obj) : Outcome (List Value) := do
  let key ← ((Obj.get (fieldConfig field) "sourceField").orElse (.str "title")).text
  entries.mapM fun entry => do return optionOf (← (optionValue key entry).text)

/-- Of some fields, those that may be edited in place under a configuration. A configuration that
names none allows all. -/
def inlineFields (fields : List Obj) (config : Obj) : Outcome (List Obj) := do
  let named := (Obj.getList (Obj.getObj config "inlineEdit") "fields").filter (·.truthy)
  let keys ← named.mapM Value.text
  if keys.isEmpty then return fields
  else return fields.filter fun f => keys.any (Obj.firstTruthy f ["key", "field_key"]).isText

end Relation

end ContentEngine
