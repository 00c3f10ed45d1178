import ContentEngine.Repeater.Basic
/-!
# Pruning

Before the rows of a repeater are stored, what they hold under repeaters that are nested too deep is
dropped. Everything else stays, whether it is shown or not, under the keys of the subfields.
-/

namespace ContentEngine

namespace Repeater

mutual

/-- The items of a repeater's value without what is held under repeaters that are nested
too deep. -/
def pruneItems (r : Repeater) (depth : Int) : List Value → Outcome (List Value)
  | [] => .ok []
  | item :: rest => do
    let pruned ← pruneItem r depth item
    return pruned :: (← pruneItems r depth rest)
termination_by items => (Value.itemsWeight items, 0)
decreasing_by
  all_goals
    apply Prod.Lex.left
    simp only [Value.itemsWeight]
    omega

/-- An item of a repeater's value without what is held under repeaters that are nested too deep.
What is no row stays as it is. -/
def pruneItem (r : Repeater) (depth : Int) (item : Value) : Outcome Value :=
  match _hitem : item.asObj? with
  | none => .ok item
  | some given => do
    let row := alignRow r.subfields given
    return .obj (← pruneCells r depth (Value.membersWeight row) row r.subfields)
termination_by (item.weight, 0)
decreasing_by
  have hrow := membersWeight_alignRow_le r.subfields given
  have hitem := Value.membersWeight_asObj_lt _hitem
  exact Prod.Lex.left _ _ (by omega)

/-- A row in which the values under some subfields have been pruned. No more than `room` is the
weight of the row at first, and pruning adds none, so that every value weighs less. -/
def pruneCells (r : Repeater) (depth : Int) (room : Nat) (row : Obj) :
    List Subfield → Outcome Obj
  | [] => .ok row
  | s :: rest =>
    if !s.isRepeater then pruneCells r depth room row rest
    else if !r.canNest depth then pruneCells r depth room (Obj.erase row s.key) rest
    else if _h : Obj.has row s.key ∧ (Obj.get row s.key).weight < room then do
      let nested ← configOf (s.config.orElse (.obj []))
      let value ← prune (ofConfig nested) (depth + 1) (Obj.get row s.key)
      pruneCells r depth room (Obj.set row s.key value) rest
    else pruneCells r depth room row rest
termination_by subfields => (room, subfields.length + 1)
decreasing_by
  · exact Prod.Lex.right _ (by simp only [List.length_cons]; omega)
  · exact Prod.Lex.right _ (by simp only [List.length_cons]; omega)
  · exact Prod.Lex.left _ _ _h.2
  · exact Prod.Lex.right _ (by simp only [List.length_cons]; omega)
  · exact Prod.Lex.right _ (by simp only [List.length_cons]; omega)

/-- The value of a repeater without what is held under repeaters that are nested too deep. A value
that is no list stays as it is. -/
def prune (r : Repeater) (depth : Int) (value : Value) : Outcome Value :=
  match value with
  | .list items => do return .list (← pruneItems r depth items)
  | v => .ok v
termination_by (value.weight, 1)
decreasing_by
  apply Prod.Lex.left
  simp only [Value.weight]
  omega

end

end Repeater

end ContentEngine
