import ContentEngine.Field.Kind
import ContentEngine.Field.Choice
import ContentEngine.Field.Reference
import ContentEngine.Field.Repeater
import ContentEngine.Json.Weight
/-!
# Field definitions

A content type declares its fields. A declaration may be written in any of the shapes that have been
in use (the key under three names, the configuration as an object, as JSON text or under an older
name, camel-case keys inside it); `FieldDef.ofValue?` brings it to one strict form, and
`FieldDef.toValue` writes that form out. The subfields of a repeater are fields again, to any depth;
the recursion ends because a configuration weighs less than the field that carries it.
-/

namespace ContentEngine

/-- A field in its strict form. -/
structure FieldDef where
  id : Value
  key : String
  label : String
  kind : FieldKind
  required : Bool
  helpText : String
  orderIndex : Int
  config : Obj

namespace FieldDef

/-- A field as an object. -/
def toObj (f : FieldDef) : Obj :=
  [("id", f.id), ("key", .str f.key), ("label", .str f.label), ("type", .str f.kind.name),
    ("required", .bool f.required), ("help_text", .str f.helpText),
    ("order_index", .int f.orderIndex), ("config", .obj f.config)]

/-- A field as a value. -/
def toValue (f : FieldDef) : Value :=
  .obj f.toObj

/-- The settings of one part of a composite value: whether it is shown, and its label. -/
def partSetting (current : Obj) (key label : String) : Value :=
  let row := Obj.getObj current key
  let shown := (Obj.get row "show").isNull || (Obj.get row "show").truthy
  let label :=
    match Obj.get row "label" with
    | .str text => if text = "" then label else text
    | _ => label
  .obj [("show", .bool shown), ("label", .str label)]

/-- A configuration with a setting for each part of a composite value. -/
def partsNormalConfig (parts : List (String × String)) (config : Obj) : Obj :=
  if parts.isEmpty then config
  else
    let current := Obj.getObj config "subfields"
    Obj.set config "subfields"
      (.obj (parts.map fun (key, label) => (key, partSetting current key label)))

/-- A configuration with its choices in strict form. -/
def choicesNormalConfig (config : Obj) : Outcome Obj := do
  let choices ← Choice.listOf ((Obj.get config "choices").orIfNull (Obj.get config "options"))
  return Obj.erase (Obj.set config "choices" (.list (choices.map Choice.toValue))) "options"

/-- The strict form of a configuration for a kind of field that is no repeater. -/
def plainNormalConfig (kind : FieldKind) (config : Obj) : Outcome Obj :=
  match kind with
  | .relationUser => UserReference.normalConfig config
  | .relation => Relation.normalConfig config
  | _ =>
    if kind.hasChoices then choicesNormalConfig config
    else .ok (partsNormalConfig kind.parts config)

/-- What a declaration says about a field besides its configuration. The answer is none if it has no
usable key. -/
def header? (o : Obj) (index : Int) : Outcome (Option FieldDef) := do
  let key ← (Obj.firstTruthy o ["field_key", "key", "fieldKey"]).snakeCase
  if key = "" then return none
  let kind ← FieldKind.ofValue (Obj.get o "type")
  let order ← (Obj.getEither o "order_index" "orderIndex").toInteger
  let given := Obj.get o "label"
  let label ← if given.isNull then pure "" else given.text
  let help ← (Obj.firstTruthy o ["help_text", "helpText"]).presentText
  return some {
    id := Obj.get o "id"
    key
    label := if trim label = "" then key else trim label
    kind
    required := (Obj.get o "required").truthy
    helpText := help
    orderIndex := order.getD index
    config := [] }

end FieldDef

/-- The object that a configuration denotes weighs no more than the configuration. -/
theorem Value.membersWeight_toConfig_le (v : Value) : membersWeight v.toConfig ≤ v.weight := by
  unfold toConfig
  split
  · split
    · simp [membersWeight]
    · rename_i text _
      cases h : parseJson text with
      | none => simp [members, asObj?, membersWeight]
      | some parsed =>
        have := weight_parseJson_lt h
        have := membersWeight_members_le parsed
        simp only [Option.getD_some]
        omega
  · exact membersWeight_members_le v

/-- The configuration of a field weighs less than the field. -/
theorem membersWeight_fieldConfig_lt {field : Value} {o : Obj} (h : field.asObj? = some o) :
    Value.membersWeight (fieldConfig field) < field.weight := by
  have hlt := Value.membersWeight_asObj_lt h
  simp only [fieldConfig, h]
  split
  · have := Value.weight_get_le o "options"
    have := Value.membersWeight_members_le (Obj.get o "options")
    simp only [Obj.getObj]
    omega
  · have := Value.weight_get_le o "config"
    have := Value.membersWeight_toConfig_le (Obj.get o "config")
    omega

namespace FieldDef

mutual

/-- The strict form of a declaration, if it has a usable key. `index` is its place in the order of
fields unless it gives one. -/
def ofValue? (raw : Value) (index : Int) : Outcome (Option FieldDef) :=
  match _hraw : raw.asObj? with
  | none => .ok none
  | some o => do
    match ← header? o index with
    | none => return none
    | some header =>
      let config := fieldConfig raw
      match header.kind with
      | .repeater =>
        let limits ← RowLimits.ofConfig config
        let subfields ← subfieldsOf (Obj.getList config "subfields") 0 []
        let config ← repeaterNormalConfig config limits (subfields.map toValue)
        return some { header with config := config }
      | kind => return some { header with config := ← plainNormalConfig kind config }
termination_by raw.weight
decreasing_by
  have := membersWeight_fieldConfig_lt _hraw
  have := Value.itemsWeight_getList_le (fieldConfig raw) "subfields"
  omega

/-- The strict forms of some declarations, of which the first has the given index. A declaration
without a usable key is left out, and so is one whose key has been seen before. -/
def subfieldsOf (raws : List Value) (index : Nat) (seen : List String) :
    Outcome (List FieldDef) :=
  match raws with
  | [] => .ok []
  | raw :: rest => do
    match ← ofValue? raw index with
    | none => subfieldsOf rest (index + 1) seen
    | some field =>
      if seen.contains field.key then subfieldsOf rest (index + 1) seen
      else return field :: (← subfieldsOf rest (index + 1) (field.key :: seen))
termination_by Value.itemsWeight raws
decreasing_by all_goals simp only [Value.itemsWeight]; omega

end

/-- The strict form of the configuration of a repeater. -/
def repeaterConfigOf (config : Obj) : Outcome Obj := do
  let limits ← RowLimits.ofConfig config
  let subfields ← subfieldsOf (Obj.getList config "subfields") 0 []
  repeaterNormalConfig config limits (subfields.map toValue)

/-- The strict form of a configuration for a kind of field. -/
def normalConfig (kind : FieldKind) (config : Obj) : Outcome Obj :=
  match kind with
  | .repeater => repeaterConfigOf config
  | _ => plainNormalConfig kind config

/-- The strict form of a configuration for a kind of field that is given by name. A name that is no
kind leaves the configuration as it is. -/
def normalConfigFor (kind config : Value) : Outcome Obj :=
  if !kind.isHashable then .error .unhashable
  else
    match kind.asText?.bind FieldKind.ofName? with
    | some kind => normalConfig kind config.toConfig
    | none => .ok config.toConfig

/-- A configuration with a setting for each part of the composite kind that is given by name. -/
def partsNormalConfigFor (kind : Value) (config : Obj) : Outcome Obj :=
  if !kind.isHashable then .error .unhashable
  else
    match kind.asText?.bind FieldKind.ofName? with
    | some kind => .ok (partsNormalConfig kind.parts config)
    | none => .ok config

/-- Whether a field comes no later than another: by place, then by key. -/
def le (a b : FieldDef) : Bool :=
  decide (a.orderIndex < b.orderIndex) || (a.orderIndex == b.orderIndex && decide (a.key ≤ b.key))

/-- The strict forms of a list of declarations, in their order. Anything but a list declares no
fields. -/
def listOf (raw : Value) : Outcome (List FieldDef) := do
  return (← subfieldsOf (raw.asList?.getD []) 0 []).mergeSort le

end FieldDef

end ContentEngine
