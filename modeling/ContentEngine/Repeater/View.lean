import ContentEngine.Repeater.Basic
import ContentEngine.Visibility
/-!
# Views of a repeater

What an editor shows of the value of a repeater: for each row a label and its cells. A cell is
hidden by a rule or shows its value, and the cell of a nested repeater shows that repeater's rows in
turn. A repeater that is nested too deep is inert: it is neither shown nor hidden, and its rows are
not looked at.
-/

namespace ContentEngine

/-! ### Labels -/

/-- What a token of a row's label stands for: the text of the value under a key, if there is one. -/
def rowToken (row : Obj) (content : String) : Outcome String :=
  let value := Obj.get row (trim content)
  if trim content = "" ∨ value.isNull then .ok "" else value.text

/-- The label of a row. The token `#` is the row's number, counted from one; it is put in first. -/
def rowLabel (template : Value) (row : Obj) (index : Int) : Outcome String := do
  let text := trim (← template.presentText)
  let number ← integerText (index + 1)
  if text = "" then return "Row " ++ number
  let numbered := replaceAll ['\x7b', '#', '\x7d'] number.toList text.toList
  return String.ofList (← Template.render (rowToken row) (Template.piecesFrom none numbered))

/-! ### Cells and rows -/

/-- How deep a repeater is nested, and how that is shown. A depth may be given as a boolean, which
counts as a number and is shown as it is. -/
structure Depth where
  level : Int
  shown : Value

namespace Depth

/-- The depth that is a number. -/
def ofInt (level : Int) : Depth := ⟨level, .int level⟩

/-- The depth that a value gives. -/
def ofValue (v : Value) : Depth := ⟨(v.asIndex?).getD 1, v⟩

/-- The depth of what is nested at a depth. -/
def next (d : Depth) : Depth := ofInt (d.level + 1)

end Depth

/-- What is shown of a repeater besides its rows. -/
structure RepeaterHead where
  depth : Depth
  config : Obj
  columns : List (String × Value)
  canAdd : Bool
  canRemove : Bool

mutual

/-- What is shown of a value of a row. -/
inductive CellView where
  | inert (key : String) (depth : Depth)
  | hidden (key : String) (type : Value)
  | plain (key : String) (type value : Value)
  | nested (key : String) (value : Value) (head : RepeaterHead) (rows : List RowView)

/-- What is shown of a row. -/
inductive RowView where
  | row (index : Nat) (label : String) (cells : List CellView)

end

/-- What is shown of a repeater. -/
structure RepeaterView where
  head : RepeaterHead
  rows : List RowView

/-- The members of a repeater's view besides its rows. -/
def RepeaterHead.toObj (h : RepeaterHead) : Obj :=
  [("depth", h.depth.shown), ("layout", Obj.get h.config "layout"),
    ("addLabel", Obj.get h.config "addLabel"), ("minRows", Obj.get h.config "minRows"),
    ("maxRows", Obj.get h.config "maxRows"), ("canAdd", .bool h.canAdd),
    ("canRemove", .bool h.canRemove),
    ("columns",
      .list (h.columns.map fun (key, label) => .obj [("key", .str key), ("label", label)]))]

/-- The members of a cell's view besides what it shows. -/
def cellMembers (key : String) (type : Value) (visible : Bool) : Obj :=
  [("key", .str key), ("type", type), ("inert", .bool false), ("visible", .bool visible)]

/-- What an inert cell says. -/
def inertMessage (depth : Depth) : String :=
  match depth.shown.text with
  | .ok text => "Nested repeater disabled at depth " ++ text
  | .error _ => "Nested repeater disabled"

mutual

/-- The view of a cell as a value. -/
def CellView.toValue : CellView → Value
  | .inert key depth =>
    .obj [("key", .str key), ("type", .str "repeater"), ("inert", .bool true), ("visible", .null),
      ("message", .str (inertMessage depth))]
  | .hidden key type => .obj (cellMembers key type false)
  | .plain key type value => .obj (cellMembers key type true ++ [("value", value)])
  | .nested key value head rows =>
    .obj (cellMembers key (.str "repeater") true
      ++ [("value", value), ("repeater", .obj (head.toObj ++ [("rows", .list (rowValues rows))]))])

/-- The view of a row as a value. -/
def RowView.toValue : RowView → Value
  | .row index label cells =>
    .obj [("index", .int index), ("label", .str label), ("cells", .list (cellValues cells))]

/-- The views of some cells as values. -/
def cellValues : List CellView → List Value
  | [] => []
  | cell :: rest => cell.toValue :: cellValues rest

/-- The views of some rows as values. -/
def rowValues : List RowView → List Value
  | [] => []
  | row :: rest => row.toValue :: rowValues rest

end

/-- The view of a repeater as a value. -/
def RepeaterView.toValue (v : RepeaterView) : Value :=
  .obj (v.head.toObj ++ [("rows", .list (rowValues v.rows))])

namespace Repeater

/-- The columns of a repeater: the keys of the subfields with their labels. -/
def columns (r : Repeater) : List (String × Value) :=
  r.subfields.map fun s => (s.key, s.label.orElse (.str s.key))

/-- What is shown of a repeater with a strict configuration besides its rows. -/
def headOf (config : Obj) (depth : Depth) (rows : Nat) : RepeaterHead :=
  let r := ofConfig config
  { depth, config, columns := r.columns, canAdd := r.canAdd rows, canRemove := r.canRemove rows }

/-- Which values of a row are shown. -/
def visibility (r : Repeater) (row : Obj) : Outcome VisibilityMap :=
  visibilityOf (r.subfields.map fun s => .str s.key) r.rules row

mutual

/-- What is shown of rows at a depth, of which the first has the given index. -/
def viewRows (r : Repeater) (depth : Depth) (index : Nat) : List Obj → Outcome (List RowView)
  | [] => .ok []
  | given :: rest => do
    let row := alignRow r.subfields given
    let shown ← r.visibility row
    let cells ← viewCells r depth row shown r.subfields
    let label ← rowLabel r.labelTemplate row index
    return .row index label cells :: (← viewRows r depth (index + 1) rest)
termination_by rows => (rowsWeight rows, 0)
decreasing_by
  · have := membersWeight_alignRow_le r.subfields given
    apply Prod.Lex.left
    simp only [ContentEngine.rowsWeight]
    omega
  · apply Prod.Lex.left
    simp only [ContentEngine.rowsWeight]
    omega

/-- What is shown of the values of a row under some subfields. -/
def viewCells (r : Repeater) (depth : Depth) (row : Obj) (shown : VisibilityMap) :
    List Subfield → Outcome (List CellView)
  | [] => .ok []
  | s :: rest => do
    let cell ← viewCell r depth row shown s
    return cell :: (← viewCells r depth row shown rest)
termination_by subfields => (Value.membersWeight row, subfields.length + 3)
decreasing_by
  all_goals
    apply Prod.Lex.right
    simp only [List.length_cons]
    omega

/-- What is shown of the value of a row under a subfield. -/
def viewCell (r : Repeater) (depth : Depth) (row : Obj) (shown : VisibilityMap) (s : Subfield) :
    Outcome CellView :=
  if r.isInert depth.level s then .ok (.inert s.key depth)
  else if !(shown.get? s.key).getD true then .ok (.hidden s.key s.type)
  else if s.isRepeater then do
    let nested ← view (s.config.orElse (.obj [])) (Obj.get row s.key) depth.next
    return .nested s.key (Obj.get row s.key) nested.head nested.rows
  else .ok (.plain s.key s.type (Obj.get row s.key))
termination_by (Value.membersWeight row, 2)
decreasing_by
  rcases Nat.lt_or_eq_of_le (Value.weight_get_le row s.key) with h | h
  · exact Prod.Lex.left _ _ h
  · rw [h]
    exact Prod.Lex.right _ (by omega)

/-- What is shown of the value of a repeater at a depth. -/
def view (source value : Value) (depth : Depth) : Outcome RepeaterView := do
  let config ← configOf source
  let rows ← viewRows (ofConfig config) depth 0 (rowsOf value)
  return ⟨headOf config depth (rowsOf value).length, rows⟩
termination_by (value.weight, 1)
decreasing_by
  rcases Nat.lt_or_eq_of_le (rowsWeight_rowsOf_le value) with h | h
  · exact Prod.Lex.left _ _ h
  · rw [h]
    exact Prod.Lex.right _ (by omega)

end

end Repeater

end ContentEngine
