import ContentEngine.Title
/-!
# Content types

A content type is a kind of entry: posts, people, colours. It has a slug of its own, labels for one
entry and for many, and a list of fields, which is kept apart from it. `ContentType.prepare` reads a
request to make a type or to change one; whatever the request leaves out stays as it was.
-/

namespace ContentEngine

/-- What the entries of a content type are for. -/
inductive ContentKind where
  | content
  | taxonomy
deriving Repr, DecidableEq

namespace ContentKind

/-- The name of a kind. -/
def text : ContentKind → String
  | content => "content"
  | taxonomy => "taxonomy"

/-- The kind with a name. -/
def ofText? (name : String) : Option ContentKind :=
  if name = "content" then some content else if name = "taxonomy" then some taxonomy else none

end ContentKind

/-- What can be said about a content type by those who make it. -/
structure TypeValues where
  slug : String
  kind : ContentKind
  labelSingular : String
  labelPlural : String
  description : String
  icon : String
deriving Repr, DecidableEq

/-- The values of a content type as an object. -/
def TypeValues.toObj (v : TypeValues) : Obj :=
  [("slug", .str v.slug), ("type", .str v.kind.text), ("label_singular", .str v.labelSingular),
    ("label_plural", .str v.labelPlural), ("description", .str v.description),
    ("icon", .str v.icon)]

/-- A content type. -/
structure ContentType where
  id : String
  values : TypeValues
  createdAt : String
  updatedAt : String
deriving Repr, DecidableEq

namespace ContentType

/-- A content type as an object. -/
def toObj (t : ContentType) : Obj :=
  ("id", .str t.id) :: (t.values.toObj
    ++ [("created_at", .str t.createdAt), ("updated_at", .str t.updatedAt)])

/-- The label for many that goes with a label for one. -/
def pluralize (label : String) : String :=
  let label := trim label
  if label = "" then ""
  else if (lowerText label).toList.getLast? = some 's' then label
  else label ++ "s"

/-- The trimmed text that a request has under the first of some keys that is there, or else the one
that there was. -/
def requested (request base : Obj) (keys : List String) (old : String) : String :=
  match keys.find? (Obj.has request) with
  | some key => (Obj.get request key).trimmedText
  | none => (Obj.get base old).trimmedText

/-- The slug of a type: the one that is asked for, or one that is made from the label for many. -/
def chosenSlug (asked plural : String) : String :=
  typeSlug (if asked = "" then plural else asked)

/-- The values that a request gives to a new type, or to an existing one. -/
def prepare (request : Value) (existing : Obj) : Outcome TypeValues := do
  match request.asObj? with
  | none => throw (.validation "Content type payload must be an object" none .null)
  | some request =>
    let ask := requested request existing
    let singular := ask ["label_singular", "labelSingular"] "label_singular"
    let given := ask ["label_plural", "labelPlural"] "label_plural"
    let plural := if given = "" then pluralize singular else given
    let slug := chosenSlug (ask ["slug"] "slug") plural
    let kind := lowerText (ask ["type", "kind"] "type")
    if slug = "" then throw (.validation "Slug is required" (some "slug") .null)
    if singular = "" then
      throw (.validation "Singular label is required" (some "label_singular") .null)
    if plural = "" then
      throw (.validation "Plural label is required" (some "label_plural") .null)
    match ContentKind.ofText? (if kind = "" then "content" else kind) with
    | none =>
      throw (.validation "Unknown content type kind" (some "type") (.obj [("kind", .str kind)]))
    | some kind =>
      return {
        slug
        kind
        labelSingular := singular
        labelPlural := plural
        description := ask ["description"] "description"
        icon := ask ["icon"] "icon" }

/-- Whether a type comes no later than another in a list: by the label for many in small letters,
then by slug. -/
def le (a b : ContentType) : Bool :=
  let x := lowerText a.values.labelPlural
  let y := lowerText b.values.labelPlural
  decide (x < y) || (x == y && decide (a.values.slug ≤ b.values.slug))

end ContentType

end ContentEngine
