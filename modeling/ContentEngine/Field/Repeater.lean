import ContentEngine.Rule
import ContentEngine.Value.Number
/-!
# Settings of a repeater

A repeater field holds rows of subfields. Its configuration bounds the number of rows, says how deep
repeaters may nest and how rows are laid out and labelled, and carries the rules that show and hide
cells. This module reads these settings; the subfields are fields themselves and are read in
`ContentEngine.Field.Definition`.
-/

namespace ContentEngine

/-- The ways to lay out rows. -/
inductive RowLayout where
  | cards
  | table
deriving Repr, DecidableEq

namespace RowLayout

/-- The name of a layout. -/
def text : RowLayout → String
  | cards => "cards"
  | table => "table"

/-- The layout with a name. Cards are the usual one. -/
def ofText (s : String) : RowLayout :=
  if s = "table" then table else cards

end RowLayout

/-- The nesting depth of repeaters that do not set one. -/
def defaultMaxDepth : Int := 2

/-- The numbers in the settings of a repeater. -/
structure RowLimits where
  minRows : Option Int
  maxRows : Option Int
  maxDepth : Int
deriving Repr, DecidableEq

namespace RowLimits

/-- The limits that are meant by three numbers, each of which may be missing. No bound is negative,
the upper bound is no less than the lower one, and the depth is at least one. -/
def ofNumbers (minRows maxRows maxDepth : Option Int) : RowLimits :=
  let low := minRows.map (max · 0)
  { minRows := low
    maxRows := maxRows.map (max · (low.getD 0))
    maxDepth :=
      match maxDepth with
      | some depth => if 1 ≤ depth then depth else defaultMaxDepth
      | none => defaultMaxDepth }

/-- The limits that a configuration sets. -/
def ofConfig (config : Obj) : Outcome RowLimits := do
  let minRows ← (Obj.getEither config "minRows" "min_rows").toInteger
  let maxRows ← (Obj.getEither config "maxRows" "max_rows").toInteger
  let maxDepth ← (Obj.getEither config "maxDepth" "max_depth").toInteger
  return ofNumbers minRows maxRows maxDepth

end RowLimits

/-- The texts in the settings of a repeater. -/
structure RowTexts where
  addLabel : String
  layout : RowLayout
  labelTemplate : String
deriving Repr, DecidableEq

/-- The texts that a configuration sets. -/
def RowTexts.ofConfig (config : Obj) : Outcome RowTexts := do
  let layout ← ((Obj.get config "layout").orElse (.str "cards")).text
  let addLabel ← ((Obj.get config "addLabel").orElse (.str "Add row")).text
  let labelTemplate ← (Obj.get config "rowLabelTemplate").presentText
  return ⟨addLabel, .ofText (lowerText (trim layout)), labelTemplate⟩

/-- The members of a configuration that hold the settings of a repeater. -/
def repeaterMembers (limits : RowLimits) (texts : RowTexts) (subfields rules : List Value) : Obj :=
  [("minRows", .ofInt? limits.minRows), ("maxRows", .ofInt? limits.maxRows),
    ("addLabel", .str texts.addLabel), ("layout", .str texts.layout.text),
    ("maxDepth", .int limits.maxDepth), ("rowLabelTemplate", .str texts.labelTemplate),
    ("subfields", .list subfields), ("rules", .list rules)]

/-- The keys under which older configurations hold their limits. -/
def oldLimitKeys : List String := ["min_rows", "max_rows", "max_depth"]

/-- A configuration with the settings of a repeater in their current form. What else it holds stays
as it is. -/
def repeaterNormalConfig (config : Obj) (limits : RowLimits) (subfields : List Value) :
    Outcome Obj := do
  let rules ← VisibilityRule.listOf (Obj.getList config "rules")
  let texts ← RowTexts.ofConfig config
  return Obj.merge (oldLimitKeys.foldl Obj.erase config)
    (repeaterMembers limits texts subfields (rules.map VisibilityRule.toValue))

end ContentEngine
