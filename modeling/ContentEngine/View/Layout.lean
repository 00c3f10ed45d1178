import ContentEngine.View.Basic
/-!
# The layout of a view

The layout that a view gives to some fields. A view whose sections show no field at all is most
likely a mistake, and a warning says so.
-/

namespace ContentEngine

/-- A layout, with a warning if the view lists sections that show nothing. The warning names the
view by its identifier and its slug. -/
structure ViewLayout where
  sections : List LayoutSection
  emptyView? : Option (Value × Value)

namespace ViewLayout

/-- The layout that a view record gives to some fields. -/
def ofRecord (fields view : Value) : Outcome ViewLayout := do
  let o := view.members
  let config := Obj.get o "config"
  let sections ← Layout.compile fields (config.orElse (.obj []))
  let broken := sections.isEmpty && Obj.has config.members "sections"
  return ⟨sections, if broken then some (Obj.get o "id", Obj.get o "slug") else none⟩

/-- The warning of a view that shows nothing. -/
def warning (id slug : Value) : Value :=
  .obj [("code", .str "VIEW_SECTIONS_EMPTY"),
    ("message", .str "Editor view has sections configured but none resolve to fields"),
    ("path", .str "config.sections"), ("detail", .obj [("view_id", id), ("slug", slug)])]

/-- The sections of a layout as a value. -/
def sectionsValue (l : ViewLayout) : Value :=
  .list (l.sections.map LayoutSection.toValue)

/-- The warnings of a layout as a value. -/
def warningsValue (l : ViewLayout) : Value :=
  .list ((l.emptyView?.map fun (id, slug) => warning id slug).toList)

end ViewLayout

end ContentEngine
