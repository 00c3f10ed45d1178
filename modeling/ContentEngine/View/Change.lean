import ContentEngine.View.Basic
import ContentEngine.Key
/-!
# Changing a view

A request to make a view, or to change one, holds some of its parts; what it does not hold stays as
it was. Every view is open to the role `ADMIN`.
-/

namespace ContentEngine

namespace EditorView

/-- The parts of a view that a request replaces. -/
def replaceable : List String := ["roles", "default_roles", "is_default", "priority", "config"]

/-- The record of a view with the parts of a request written into it. -/
def withParts (base request : Obj) : Obj :=
  let merged := Obj.merge base (request.filter fun member => replaceable.contains member.1)
  if Obj.has request "sections" || Obj.has request "widgets" then
    Obj.set merged "sections" (Obj.getEither request "sections" "widgets")
  else merged

/-- The text under a key of a request, or of the view as it was. -/
def requestedText (request base : Obj) (key : String) : Outcome String := do
  return trim (← ((Obj.get request key).orElse (Obj.get base key)).presentText)

/-- A view that is open to administrators. -/
def openToAdmin (v : EditorView) : EditorView :=
  if v.roles.contains "ADMIN" then v else { v with roles := v.roles ++ ["ADMIN"] }

/-- The view that a request makes of an existing one, or of none. -/
def prepare (request : Value) (existing : Obj) : Outcome EditorView := do
  match request.asObj? with
  | none => throw (.validation "Editor view payload must be an object" none .null)
  | some request =>
    let base ← if existing.isEmpty then pure [] else toRecord <$> ofRecord existing
    let label ← requestedText request base "label"
    let given ← requestedText request base "slug"
    let slug := slugify (if given = "" then label else given)
    if label = "" then
      throw (.validation "Editor view label is required" (some "label") .null)
    if slug = "" then throw (.validation "Editor view slug is required" (some "slug") .null)
    let view ← ofRecord
      (Obj.merge (withParts base request) [("label", .str label), ("slug", .str slug)])
    return view.openToAdmin

end EditorView

end ContentEngine
