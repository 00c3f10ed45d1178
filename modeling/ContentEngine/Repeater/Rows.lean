import ContentEngine.Repeater.Basic
import ContentEngine.Value.Equal
/-!
# Operations on rows

An editor adds, removes, duplicates, moves and rewrites the rows of a repeater. Every operation is
total: one that the bounds on the number of rows forbid, or that names a row which is not there,
leaves the rows as they are.
-/

namespace ContentEngine

/-- An operation on the rows of a repeater. -/
inductive RowOp where
  | append (row : Obj)
  | remove (index : Int)
  | duplicate (index : Int)
  | moveUp (index : Int)
  | moveDown (index : Int)
  | update (index : Int) (patch : Value)
  | keep

namespace RowOp

/-- The index that an operation names. What is no integer names no row. -/
def indexOf (o : Obj) : Int :=
  ((Obj.get o "index").asIndex?).getD (-1)

/-- The operation that a value describes. -/
def ofValue (v : Value) : RowOp :=
  match v.asObj? with
  | none => keep
  | some o =>
    match (Obj.get o "op").asText? with
    | some "append" => append (Obj.getObj o "row")
    | some "remove" => remove (indexOf o)
    | some "duplicate" => duplicate (indexOf o)
    | some "move_up" => moveUp (indexOf o)
    | some "move_down" => moveDown (indexOf o)
    | some "update" => update (indexOf o) ((Obj.get o "patch").orElse (.obj []))
    | _ => keep

end RowOp

namespace Repeater

/-- The position that an index names in a list of some length. -/
def position? (index : Int) (length : Nat) : Option Nat :=
  if 0 ≤ index ∧ index < length then some index.toNat else none

/-- The rows with one more at the end, if there may be more. -/
def appendRow (r : Repeater) (rows : List Obj) (row : Obj) : List Obj :=
  if r.canAdd rows.length then rows ++ [row] else rows

/-- The rows without one of them, if there may be fewer. -/
def removeRow (r : Repeater) (rows : List Obj) (index : Int) : List Obj :=
  match position? index rows.length with
  | some i => if r.canRemove rows.length then rows.take i ++ rows.drop (i + 1) else rows
  | none => rows

/-- The rows with a copy of one of them behind it, if there may be more. -/
def duplicateRow (r : Repeater) (rows : List Obj) (index : Int) : List Obj :=
  match position? index rows.length with
  | some i =>
    if r.canAdd rows.length then rows.take (i + 1) ++ (rows.drop i).take 1 ++ rows.drop (i + 1)
    else rows
  | none => rows

/-- The rows with two of them exchanged, if both are there. -/
def swapRows (rows : List Obj) (index target : Int) : List Obj :=
  match position? index rows.length, position? target rows.length with
  | some i, some j =>
    match rows[i]?, rows[j]? with
    | some a, some b => (rows.set i b).set j a
    | _, _ => rows
  | _, _ => rows

/-- The rows with one of them moved by one place, towards the start or towards the end. -/
def moveRow (rows : List Obj) (index : Int) (up : Bool) : List Obj :=
  swapRows rows index (index + if up then -1 else 1)

/-- Whether a direction means towards the start: the text `up`, or the number -1. -/
def isUpward (direction : Value) : Bool :=
  direction.isText "up" || direction.same (.int (-1))

/-- The rows with the members of a patch written into one of them. -/
def updateRow (rows : List Obj) (index : Int) (patch : Value) : List Obj :=
  match position? index rows.length, patch.asObj? with
  | some i, some members => rows.modify i fun row => Obj.merge row members
  | _, _ => rows

/-- The rows after an operation. -/
def applyOp (r : Repeater) (rows : List Obj) : RowOp → List Obj
  | .append row => r.appendRow rows row
  | .remove index => r.removeRow rows index
  | .duplicate index => r.duplicateRow rows index
  | .moveUp index => moveRow rows index true
  | .moveDown index => moveRow rows index false
  | .update index patch => updateRow rows index patch
  | .keep => rows

end Repeater

end ContentEngine
