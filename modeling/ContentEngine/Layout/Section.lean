import ContentEngine.Value.Number
import ContentEngine.Text.Blank
import ContentEngine.Field.Reference
import ContentEngine.Key
/-!
# Layouts

The layout of an editor's form, put together from the sections that a configuration lists and from
the fields that a content type declares. A configuration without a list of sections gets one section
with every field; a list whose sections name no field gives the empty layout, which is a different
thing.
-/

namespace ContentEngine

/-!
### References to fields

A section of a layout lists the fields that it shows. It names a field by a text, or by an object
that carries the key under one of several names and may say how many columns the field takes and
whether it is shown at all.
-/

namespace FieldRef

/-- The names under which a reference may carry the key of its field. -/
def keyNames : List String := ["key", "field_key", "fieldKey", "field", "id"]

/-- The first text that is not blank under some names, without the blanks at its ends. -/
def firstText (o : Obj) : List String → String
  | [] => ""
  | name :: names =>
    let text := trim ((Obj.get o name).asText?.getD "")
    if text = "" then firstText o names else text

/-- The key of the field that a reference names. It is empty if the reference names none. -/
def key (ref : Value) : String :=
  match ref with
  | .str text => trim text
  | v => firstText v.members keyNames

/-- Whether a reference says that its field is not shown. -/
def isHidden (ref : Value) : Bool :=
  (Obj.get ref.members "visible").isFalse

/-- The number of columns that a reference asks for, if it says so. -/
def width? (ref : Value) : Outcome (Option Int) := do
  match ← (Obj.get ref.members "width").toInteger with
  | some width => return some width
  | none => (Obj.get ref.members "colSpan").toInteger

end FieldRef

/-! ### Sections -/

/-- A field in its place: the key it was asked for by, the columns it takes, and the field. -/
structure LayoutRow where
  key : Value
  width : Int
  field : Value

/-- A section of a layout. -/
structure LayoutSection where
  id : String
  title : String
  description : String
  columns : Int
  rows : List LayoutRow

/-- A row of a layout as a value. -/
def LayoutRow.toValue (r : LayoutRow) : Value :=
  .obj [("key", r.key), ("width", .int r.width), ("field", r.field)]

/-- A section of a layout as a value. -/
def LayoutSection.toValue (s : LayoutSection) : Value :=
  .obj [("id", .str s.id), ("title", .str s.title), ("description", .str s.description),
    ("columns", .int s.columns), ("fields", .list (s.rows.map LayoutRow.toValue))]

/-- The text that a record carries under a key, or another text if it carries none. -/
def textOr (o : Obj) (key default : String) : Outcome String :=
  ((Obj.get o key).orElse (.str default)).text

namespace Layout

/-- The first list under one of several keys of an object. -/
def firstList? (o : Obj) : List String → Option (List Value)
  | [] => none
  | key :: keys =>
    match (Obj.get o key).asList? with
    | some items => some items
    | none => firstList? o keys

/-- The sections that a configuration lists, if it has a list of them. -/
def sections? (config : Value) : Option (List Value) :=
  firstList? config.members ["sections", "widgets"]

/-- The references of a section. -/
def references (o : Obj) : List Value :=
  (firstList? o ["fields", "rows", "fieldKeys", "items"]).getD []

/-- The number of columns that the name of an arrangement stands for. -/
def namedColumns (name : String) : Int :=
  if occursIn "three".toList name.toList then 3
  else if occursIn "two".toList name.toList then 2
  else 1

/-- The number of columns of a section: a number if it gives one, and otherwise what the name of its
arrangement says. -/
def columns (o : Obj) : Outcome Int := do
  let given ← (Obj.get o "columns").toInteger
  match given.filter (0 < ·) with
  | some columns => return columns
  | none => return namedColumns (lowerText (trim (← (Obj.get o "layout").presentText)))

/-! ### Resolving references -/

/-- The fields that every entry has, with their labels. -/
def builtinFields : List (String × String) :=
  [("title", "Title"), ("slug", "Slug"), ("status", "Status"), ("created_at", "Created"),
    ("updated_at", "Updated")]

/-- The field that a key stands for if no field of that key is declared. -/
def builtin (key : String) : Value :=
  match builtinFields.lookup key with
  | some label => .obj [("key", .str key), ("label", .str label), ("type", .str "builtin")]
  | none => .obj [("key", .str key), ("type", .str "builtin")]

/-- The declared field with a key. Of several the last one counts. -/
def declared? (fields : List Obj) (key : String) : Option Value :=
  (fields.reverse.find? fun f => match Obj.get f "key" with
    | .str k => k == key
    | _ => false).map .obj

/-- The field that a reference leads to: the declared field with its key, or with the key that it
spells, or a field that every entry has. -/
def resolve (fields : List Obj) (key : String) : Value :=
  ((declared? fields key).or (declared? fields (snakeCase key))).getD (builtin key)

/-- The number of columns that a field takes: at least one, and no more than there are. -/
def clampWidth (columns : Int) (width : Option Int) : Int :=
  match width with
  | some width => if width < 1 then 1 else min width columns
  | none => 1

/-- The rows of a section with so many columns. References that are hidden, or that name no field,
are left out. -/
def rows (fields : List Obj) (columns : Int) : List Value → Outcome (List LayoutRow)
  | [] => .ok []
  | ref :: rest =>
    if FieldRef.isHidden ref ∨ FieldRef.key ref = "" then rows fields columns rest
    else do
      let width ← FieldRef.width? ref
      let row : LayoutRow :=
        ⟨.str (FieldRef.key ref), clampWidth columns width, resolve fields (FieldRef.key ref)⟩
      return row :: (← rows fields columns rest)

/-- The number of a section in its texts, counted from one. -/
def sectionNumber (index : Nat) : String :=
  paddedText 1 (index + 1)

/-- The section that a value describes, unless it shows no field. -/
def section? (fields : List Obj) (index : Nat) (raw : Value) : Outcome (Option LayoutSection) :=
  match raw.asObj? with
  | none => .ok none
  | some o => do
    let columns ← columns o
    match ← rows fields columns (references o) with
    | [] => return none
    | rows =>
      let id ← textOr o "id" ("widget-" ++ sectionNumber index)
      let title ← textOr o "title" ("Widget " ++ sectionNumber index)
      let description ← textOr o "description" ""
      return some { id, title, description, columns, rows }

/-- The sections that some values describe, of which the first has the given index. -/
def sectionsFrom (fields : List Obj) (index : Nat) : List Value → Outcome (List LayoutSection)
  | [] => .ok []
  | raw :: rest => do
    match ← section? fields index raw with
    | some item => return item :: (← sectionsFrom fields (index + 1) rest)
    | none => sectionsFrom fields (index + 1) rest

/-- The section that shows every field. -/
def fallbackSection (fields : List Obj) : LayoutSection where
  id := "main"
  title := "Fields"
  description := ""
  columns := 1
  rows := fields.map fun f => ⟨Obj.get f "key", 1, .obj f⟩

/-- The fields of a list that have a key. -/
def declaredFields (fields : Value) : List Obj :=
  ((fields.asItems?.getD []).filterMap Value.asObj?).filter fun f => (Obj.get f "key").truthy

/-- The layout of some fields under a configuration. -/
def compile (fields config : Value) : Outcome (List LayoutSection) :=
  let fields := declaredFields fields
  if fields.any fun f => !(Obj.get f "key").isHashable then .error .unhashable
  else
    match sections? config with
    | none => .ok [fallbackSection fields]
    | some sections => sectionsFrom fields 0 sections

end Layout

end ContentEngine
