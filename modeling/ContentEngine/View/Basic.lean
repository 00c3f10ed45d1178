import ContentEngine.Layout.Section
import ContentEngine.Json.Stored
import ContentEngine.Value.Equal
/-!
# Editor views

An editor view is a form for the entries of a content type: who may use it, who gets it first, which
sections it has, and its settings. Records of views have been stored in many shapes, with the
configuration as an object or as JSON text and the sections in any of five places; `EditorView` is
the strict form, and `EditorView.ofRecord` is the only reader of the others.
-/

namespace ContentEngine

/-!
### Settings of a view

How an editor view treats the fields that every entry has: their labels, which of them it hides, and
where the title comes from. Settings that are not given have their usual values, and settings of
other names are kept.
-/

namespace ViewCore

/-- The usual settings. -/
def usual : Obj :=
  [("titleLabel", .str "Title"), ("slugLabel", .str "Slug"), ("statusLabel", .str "Status"),
    ("titleMode", .str "manual"), ("titleTemplate", .str ""), ("hideTitle", .bool false),
    ("hideSlug", .bool false), ("hideStatus", .bool false), ("hidePreview", .bool false),
    ("autoSlugFromTitleIfEmpty", .bool true)]

/-- The way to find titles that a text names: by hand, unless it names the template. -/
def titleMode (name : String) : String :=
  if name = "template" then "template" else "manual"

/-- The settings that say whether something is hidden. -/
def flags : List String := ["hideTitle", "hideSlug", "hideStatus", "hidePreview"]

/-- Settings in which the value under a key is whether it counts as present. -/
def setFlag (core : Obj) (key : String) : Obj :=
  Obj.set core key (.bool (Obj.get core key).truthy)

/-- The strict form of settings. -/
def ofValue (raw : Value) : Outcome Obj := do
  let core := Obj.merge usual (raw.members.filter fun member => !member.2.isNull)
  let mode ← textOr core "titleMode" "manual"
  let template ← (Obj.get core "titleTemplate").presentText
  let core := Obj.set core "titleMode" (.str (titleMode (lowerText (trim mode))))
  let core := flags.foldl setFlag (Obj.set core "titleTemplate" (.str template))
  return Obj.set core "autoSlugFromTitleIfEmpty"
    (.bool (!(Obj.get core "autoSlugFromTitleIfEmpty").isFalse))

end ViewCore

/-!
### Sections of a view

The sections that an editor view lists, in their strict form. A view that lists none at all differs
from one with an empty list.
-/

/-- A reference of a section to a field. -/
structure SectionRef where
  key : String
  width : Int
  hidden : Bool
deriving Repr, DecidableEq

/-- A section of a view. -/
structure ViewSection where
  id : String
  title : String
  description : String
  layout : String
  refs : List SectionRef
  columns : Option Int
deriving Repr, DecidableEq

namespace SectionRef

/-- A reference as a value. -/
def toValue (r : SectionRef) : Value :=
  .obj ([("key", .str r.key), ("width", .int r.width)]
    ++ (if r.hidden then [("visible", .bool false)] else []))

/-- The reference that a value describes, if it names a field. -/
def ofValue? (ref : Value) : Outcome (Option SectionRef) :=
  if FieldRef.key ref = "" then .ok none
  else do
    let width ← FieldRef.width? ref
    return some ⟨FieldRef.key ref, (width.filter (0 < ·)).getD 1, FieldRef.isHidden ref⟩

end SectionRef

namespace ViewSection

/-- A section as a value. -/
def toValue (s : ViewSection) : Value :=
  .obj ([("id", .str s.id), ("title", .str s.title), ("description", .str s.description),
      ("layout", .str s.layout), ("fields", .list (s.refs.map SectionRef.toValue))]
    ++ (s.columns.map fun columns => ("columns", Value.int columns)).toList)

/-- The section that an object describes. `index` is its place in the list. -/
def ofObj (index : Nat) (o : Obj) : Outcome ViewSection := do
  let id ← textOr o "id" ("widget-" ++ Layout.sectionNumber index)
  let title ← textOr o "title" ("Widget " ++ Layout.sectionNumber index)
  let description ← textOr o "description" ""
  let layout ← textOr o "layout" "one-column"
  let refs ← (Obj.getList o "fields").mapM SectionRef.ofValue?
  let columns ← (Obj.get o "columns").toInteger
  return {
    id
    title
    description
    layout
    refs := refs.filterMap fun ref => ref
    columns := columns.filter (0 < ·) }

/-- The sections that some values describe, of which the first has the given index. Only objects
describe sections. -/
def listFrom (index : Nat) : List Value → Outcome (List ViewSection)
  | [] => .ok []
  | raw :: rest =>
    match raw.asObj? with
    | none => listFrom (index + 1) rest
    | some o => do
      let item ← ofObj index o
      return item :: (← listFrom (index + 1) rest)

end ViewSection

/-! ### Views -/

/-- An editor view. -/
structure EditorView where
  id : Value
  contentTypeId : Value
  slug : String
  label : String
  roles : List String
  defaultRoles : List String
  isDefault : Bool
  priority : Int
  core : Obj
  sections : Option (List ViewSection)
  createdAt : Value
  updatedAt : Value

/-- The object that a stored configuration denotes. -/
def viewConfig (raw : Value) : Outcome Obj :=
  match raw with
  | .str _ | .bytes _ => do return (← raw.ofStored).members
  | v => .ok v.members

/-- The text of a value as the name of a role. -/
def roleName (v : Value) : Outcome String := do
  return upperText (trim (← v.presentText))

/-- The texts of a list, each at its first place only, without the empty ones. -/
def distinctNames (seen : List String) : List String → List String
  | [] => []
  | name :: rest =>
    if name = "" ∨ name ∈ seen then distinctNames seen rest
    else name :: distinctNames (name :: seen) rest

/-- The roles that a value lists. A text is a role of its own. -/
def rolesOf (v : Value) : Outcome (List String) := do
  let items :=
    match v with
    | .str _ => [v]
    | _ => v.asList?.getD []
  return distinctNames [] (← items.mapM roleName)

/-- Whether a value that lists roles lets a role through. One that lists none lets all through, and
a text does if the role occurs in it. -/
def listsRole (roles role : Value) : Bool :=
  if !roles.truthy then true
  else
    match roles, role with
    | .str text, .str part => occursIn part.toList text.toList
    | _, _ => (roles.asItems?.getD (roles.members.map fun m => .str m.1)).any role.same

namespace EditorView

/-- The first list of sections that a record carries, with the object that its configuration
denotes. -/
def sectionsIn? (config record : Obj) : Option (List Value) :=
  ((Layout.firstList? config ["sections", "widgets"]).or
    (Layout.firstList? record ["sections", "widgets"])).or
    (Layout.firstList? (Obj.getObj config "layout") ["sections"])

/-- The first list of sections that a record carries. -/
def sectionsOf? (record : Value) : Outcome (Option (List Value)) :=
  match record.asObj? with
  | none => .ok none
  | some o => do return sectionsIn? (← viewConfig (Obj.get o "config")) o

/-- The view that a record describes. -/
def ofRecord (record : Obj) : Outcome EditorView := do
  let config ← viewConfig (Obj.get record "config")
  let core ← ViewCore.ofValue (Obj.get config "core")
  let sections ← (sectionsIn? config record).mapM (ViewSection.listFrom 0)
  let priority ← ((Obj.get? record "priority").getD (Obj.get config "priority")).toInteger
  let slug ← (Obj.get record "slug").presentText
  let label ← ((Obj.get record "label").orElse (Obj.get record "slug")).presentText
  let roles ← rolesOf ((Obj.get record "roles").orIfNull (Obj.get config "roles"))
  let defaultRoles ←
    rolesOf ((Obj.get record "default_roles").orIfNull (Obj.get config "default_roles"))
  return {
    id := Obj.get record "id"
    contentTypeId := Obj.get record "content_type_id"
    slug
    label
    roles
    defaultRoles
    isDefault := (Obj.get record "is_default").truthy
    priority := priority.getD 0
    core
    sections
    createdAt := Obj.get record "created_at"
    updatedAt := Obj.get record "updated_at" }

/-- The configuration of a view. -/
def config (v : EditorView) : Obj :=
  ("core", .obj v.core)
    :: (v.sections.map fun items => ("sections", Value.list (items.map ViewSection.toValue))).toList

/-- What is stored of a view. -/
def stored (v : EditorView) : Obj :=
  [("slug", .str v.slug), ("label", .str v.label), ("roles", .ofTexts v.roles),
    ("default_roles", .ofTexts v.defaultRoles), ("is_default", .bool v.isDefault),
    ("priority", .int v.priority), ("config", .obj v.config)]

/-- A view as a record. -/
def toRecord (v : EditorView) : Obj :=
  [("id", v.id), ("content_type_id", v.contentTypeId)] ++ v.stored
    ++ [("created_at", v.createdAt), ("updated_at", v.updatedAt)]

/-- Whether a view may be used in a role. A view that lists no roles is open to all. -/
def allows (v : EditorView) (role : String) : Bool :=
  v.roles.isEmpty || v.roles.contains role

end EditorView

end ContentEngine
