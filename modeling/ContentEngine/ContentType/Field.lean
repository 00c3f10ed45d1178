import ContentEngine.Title
import ContentEngine.Value.Equal
import ContentEngine.Field.Definition
/-!
# The fields of a content type

The fields of a content type are always replaced together. `FieldInput.listOf` reads such a list and
says what is wrong with it; what it returns is stored as it is. A field is brought to its strict
form only when it is read, so `PresentedField` is what everyone sees.
-/

namespace ContentEngine

/-- A field as it is stored. -/
structure FieldInput where
  key : String
  label : String
  kind : FieldKind
  required : Bool
  helpText : String
  orderIndex : Int
  config : Obj

namespace FieldInput

/-- A stored field as an object. -/
def toObj (f : FieldInput) : Obj :=
  [("field_key", .str f.key), ("label", .str f.label), ("type", .str f.kind.name),
    ("required", .bool f.required), ("help_text", .str f.helpText),
    ("order_index", .int f.orderIndex), ("config", .obj f.config)]

/-- The field that a request describes at a place of a list, when the keys before it are known. -/
def ofObj (index : Nat) (seen : List String) (o : Obj) : Outcome FieldInput := do
  let path := "fields[" ++ paddedText 1 index ++ "]"
  let key ← (Obj.firstTruthy o ["field_key", "key", "fieldKey"]).snakeCase
  if key = "" then
    throw (.validation "Field key is required" (some (path ++ ".field_key")) .null)
  let label := (Obj.get o "label").trimmedText
  if label = "" then
    throw (.validation "Field label is required" (some (path ++ ".label"))
      (.obj [("field_key", .str key)]))
  if seen.contains key then
    throw (.validation "Duplicate field key" (some (path ++ ".field_key"))
      (.obj [("field_key", .str key)]))
  let order ← (Obj.getEither o "order_index" "orderIndex").toInteger
  let kind ← FieldKind.ofValue (Obj.get o "type")
  return {
    key
    label
    kind
    required := (Obj.get o "required").truthy
    helpText := (Obj.getEither o "help_text" "helpText").trimmedText
    orderIndex := order.getD index
    config := fieldConfig (.obj o) }

/-- The fields that some requests describe, of which the first stands at the given place. -/
def listFrom (index : Nat) (seen : List String) : List Value → Outcome (List FieldInput)
  | [] => .ok []
  | raw :: rest => do
    let path := "fields[" ++ paddedText 1 index ++ "]"
    match raw.asObj? with
    | none => throw (.validation "Field must be an object" (some path) .null)
    | some o =>
      let field ← ofObj index seen o
      return field :: (← listFrom (index + 1) (field.key :: seen) rest)

/-- The fields that a request describes. -/
def listOf (raw : Value) : Outcome (List FieldInput) :=
  match raw.asList? with
  | none => .error (.validation "Fields must be a list" (some "fields") .null)
  | some items => listFrom 0 [] items

end FieldInput

/-- A field of a content type in its strict form. -/
structure PresentedField where
  definition : FieldDef
  contentTypeId : Value

namespace PresentedField

/-- A field as an object. -/
def toObj (f : PresentedField) : Obj :=
  f.definition.toObj ++ [("field_key", .str f.definition.key), ("content_type_id", f.contentTypeId)]

/-- The strict form of a stored field, if it has a usable key. -/
def ofStored? (stored : Obj) : Outcome (Option PresentedField) := do
  let order ← (Obj.get stored "order_index").toInteger
  let definition ← FieldDef.ofValue? (.obj stored) (order.getD 0)
  return definition.map fun d => ⟨d, Obj.get stored "content_type_id"⟩

/-- The fields that are there, in their order. -/
def inOrder (fields : List (Option PresentedField)) : List PresentedField :=
  (fields.filterMap fun f => f).mergeSort fun a b => FieldDef.le a.definition b.definition

/-- The strict forms of some stored fields, in their order. -/
def listOf (stored : List Obj) : Outcome (List PresentedField) := do
  return inOrder (← stored.mapM ofStored?)

end PresentedField

/-! ### Sorting what may not be in strict form -/

/-- Whether the field of one object comes before that of another. Places and keys of objects that
are not in strict form may have no order. -/
def fieldBefore (a b : Obj) : Outcome Bool :=
  let place := fun (o : Obj) => (Obj.get o "order_index").orElse (.int 0)
  let key := fun (o : Obj) => (Obj.get o "key").orElse (.str "")
  let before : Value → Value → Outcome Bool := fun x y =>
    match x.before? y with
    | some answer => .ok answer
    | none => .error .incomparable
  if !(place a).same (place b) then before (place a) (place b)
  else if (key a).same (key b) then .ok false
  else before (key a) (key b)

/-- Puts an object behind all objects that do not come after it. -/
def insertField (o : Obj) : List Obj → Outcome (List Obj)
  | [] => .ok [o]
  | first :: rest => do
    if ← fieldBefore o first then return o :: first :: rest
    else return first :: (← insertField o rest)

/-- Objects in the order of their fields. -/
def sortFields (sorted : List Obj) : List Obj → Outcome (List Obj)
  | [] => .ok sorted
  | o :: rest => do sortFields (← insertField o sorted) rest

end ContentEngine
