import ContentEngine.Proofs.Repeater.Session

/-!
# Operations on rows undo each other

What an operation does is told by the rows around the place that it names: `Exchanged` says that at
a place of a list some rows have been exchanged for others, while all rows before them and behind
them stand as they did. Removing, duplicating and rewriting a row exchange that one row, and moving
a row exchanges it with its neighbour (`rowEffects`). Where an index names no row, or the bounds on
the number of rows forbid what is asked for, nothing is done.

`row_operations_undone` is the main statement: an operation is undone by another one. What lets a
row be added also lets it be removed again, since before it was added the rows were no fewer than
they have to be.
-/

namespace ContentEngine

namespace Repeater

variable {r : Repeater} {rows before after : List Obj} {a b row : Obj} {index : Int}

/-- Whether some rows at a place of a list have been exchanged for others. -/
def Exchanged (place : Int) (old new rows rows' : List Obj) : Prop :=
  ∃ before after, rows = before ++ (old ++ after) ∧ rows' = before ++ (new ++ after) ∧
    (before.length : Int) = place

/-! ### Rows around a place -/

/-- An index that names a row cuts the rows in two, with that row between them. -/
theorem exists_append_cons (h : 0 ≤ index ∧ index < rows.length) :
    ∃ before row after, rows = before ++ row :: after ∧ (before.length : Int) = index := by
  have hlt : index.toNat < rows.length := by omega
  refine ⟨rows.take index.toNat, rows[index.toNat], rows.drop (index.toNat + 1), ?_, ?_⟩
  · rw [List.getElem_cons_drop, List.take_append_drop]
  · rw [List.length_take_of_le hlt.le]
    omega

/-- An index that names a row with another one behind it cuts the rows in two around both. -/
theorem exists_append_cons_cons (h : 0 ≤ index ∧ index + 1 < rows.length) :
    ∃ before a b after, rows = before ++ a :: b :: after ∧ (before.length : Int) = index := by
  have hnamed : 0 ≤ index ∧ index < rows.length := by omega
  obtain ⟨before, a, rest, rfl, hindex⟩ := exists_append_cons hnamed
  cases rest with
  | nil =>
    rw [List.length_append, List.length_singleton] at h
    omega
  | cons b after => exact ⟨before, a, b, after, rfl, hindex⟩

theorem position?_append_cons (hindex : (before.length : Int) = index) :
    position? index (before ++ row :: after).length = some before.length := by
  rw [position?_eq_some_iff, List.length_append, List.length_cons]
  omega

theorem position?_eq_none (h : ¬(0 ≤ index ∧ index < rows.length)) :
    position? index rows.length = none := by
  rw [position?, if_neg h]

theorem removeRow_append_cons (hindex : (before.length : Int) = index)
    (hroom : r.canRemove (before ++ row :: after).length = true) :
    r.removeRow (before ++ row :: after) index = before ++ after := by
  rw [removeRow_of_position? (position?_append_cons hindex), if_pos hroom,
    List.eraseIdx_append_of_length_le (Nat.le_refl _), Nat.sub_self, List.eraseIdx_cons_zero]

theorem duplicateRow_append_cons (hindex : (before.length : Int) = index)
    (hroom : r.canAdd (before ++ row :: after).length = true) :
    r.duplicateRow (before ++ row :: after) index = before ++ row :: row :: after := by
  rw [duplicateRow_of_position? (position?_append_cons hindex), if_pos hroom,
    List.take_length_add_append, List.drop_left]
  simp

theorem updateRow_append_cons (hindex : (before.length : Int) = index) {patch : Value}
    {members : Obj} (hpatch : patch.asObj? = some members) :
    updateRow (before ++ row :: after) index patch =
      before ++ Obj.merge row members :: after := by
  rw [updateRow, position?_append_cons hindex, hpatch]
  simp [List.modify_eq_set_getElem?]

/-- Two neighbours are exchanged, whichever of them is named first. -/
theorem swapRows_append_cons_cons (hindex : (before.length : Int) = index) :
    swapRows (before ++ a :: b :: after) index (index + 1) = before ++ b :: a :: after ∧
      swapRows (before ++ a :: b :: after) (index + 1) index = before ++ b :: a :: after := by
  have hfirst : position? index (before ++ a :: b :: after).length = some before.length :=
    position?_append_cons hindex
  have hsecond : position? (index + 1) (before ++ a :: b :: after).length =
      some (before.length + 1) := by
    rw [position?_eq_some_iff, List.length_append, List.length_cons, List.length_cons]
    omega
  rw [swapRows, swapRows, hfirst, hsecond]
  simp

theorem moveRow_up_append_cons_cons (hindex : (before.length : Int) + 1 = index) :
    moveRow (before ++ a :: b :: after) index true = before ++ b :: a :: after := by
  rw [moveRow, if_pos rfl, Int.add_neg_one, ← hindex, Int.add_sub_cancel]
  exact (swapRows_append_cons_cons rfl).2

theorem moveRow_down_append_cons_cons (hindex : (before.length : Int) = index) :
    moveRow (before ++ a :: b :: after) index false = before ++ b :: a :: after := by
  rw [moveRow, if_neg Bool.false_ne_true]
  exact (swapRows_append_cons_cons hindex).1

/-- What asks for a row that is not there moves nothing. -/
theorem swapRows_eq_self {target : Int}
    (h : ¬(0 ≤ index ∧ index < rows.length) ∨ ¬(0 ≤ target ∧ target < rows.length)) :
    swapRows rows index target = rows := by
  rw [swapRows]
  rcases h with h | h
  · rw [position?_eq_none h]
  · rw [position?_eq_none h]
    cases position? index rows.length <;> rfl

/-! ### What operations do -/

/-- What the operations at an index do to rows. -/
structure RowEffects (r : Repeater) (rows : List Obj) (index : Int) : Prop where
  remove : if (0 ≤ index ∧ index < rows.length) ∧ r.canRemove rows.length = true then
      ∃ row, Exchanged index [row] [] rows (r.removeRow rows index)
    else r.removeRow rows index = rows
  duplicate : if (0 ≤ index ∧ index < rows.length) ∧ r.canAdd rows.length = true then
      ∃ row, Exchanged index [row] [row, row] rows (r.duplicateRow rows index)
    else r.duplicateRow rows index = rows
  update : ∀ patch, if 0 ≤ index ∧ index < rows.length ∧ patch.isObj = true then
      ∃ row, Exchanged index [row] [Obj.merge row patch.members] rows (updateRow rows index patch)
    else updateRow rows index patch = rows
  moveUp : if 0 < index ∧ index < rows.length then
      ∃ above row, Exchanged (index - 1) [above, row] [row, above] rows (moveRow rows index true)
    else moveRow rows index true = rows
  moveDown : if 0 ≤ index ∧ index + 1 < rows.length then
      ∃ row below, Exchanged index [row, below] [below, row] rows (moveRow rows index false)
    else moveRow rows index false = rows

theorem rowEffects (r : Repeater) (rows : List Obj) (index : Int) : r.RowEffects rows index where
  remove := by
    split
    · next h =>
      obtain ⟨before, row, after, rfl, hindex⟩ := exists_append_cons h.1
      exact ⟨row, before, after, rfl, removeRow_append_cons hindex h.2, hindex⟩
    · next h =>
      rw [removeRow]
      cases hposition : position? index rows.length with
      | none => rfl
      | some i =>
        have hnamed := position?_eq_some_iff.mp hposition
        exact if_neg fun hroom => h ⟨by omega, hroom⟩
  duplicate := by
    split
    · next h =>
      obtain ⟨before, row, after, rfl, hindex⟩ := exists_append_cons h.1
      exact ⟨row, before, after, rfl, duplicateRow_append_cons hindex h.2, hindex⟩
    · next h =>
      rw [duplicateRow]
      cases hposition : position? index rows.length with
      | none => rfl
      | some i =>
        have hnamed := position?_eq_some_iff.mp hposition
        exact if_neg fun hroom => h ⟨by omega, hroom⟩
  update patch := by
    split
    · next h =>
      obtain ⟨before, row, after, rfl, hindex⟩ := exists_append_cons ⟨h.1, h.2.1⟩
      obtain ⟨members, hmembers⟩ := Option.isSome_iff_exists.mp h.2.2
      have hsame : patch.members = members := by rw [Value.members, hmembers, Option.getD_some]
      rw [hsame]
      exact ⟨row, before, after, rfl, updateRow_append_cons hindex hmembers, hindex⟩
    · next h =>
      rw [updateRow]
      cases hposition : position? index rows.length with
      | none => rfl
      | some i =>
        have hnamed := position?_eq_some_iff.mp hposition
        cases hpatch : patch.asObj? with
        | none => rfl
        | some members =>
          exact absurd ⟨by omega, by omega, by rw [Value.isObj, hpatch, Option.isSome_some]⟩ h
  moveUp := by
    split
    · next h =>
      have hpair : 0 ≤ index - 1 ∧ index - 1 + 1 < rows.length := by omega
      obtain ⟨before, above, row, after, rfl, hindex⟩ := exists_append_cons_cons hpair
      have hnext : (before.length : Int) + 1 = index := by omega
      exact ⟨above, row, before, after, rfl, moveRow_up_append_cons_cons hnext, hindex⟩
    · next h =>
      rw [moveRow, if_pos rfl]
      exact swapRows_eq_self (by omega)
  moveDown := by
    split
    · next h =>
      obtain ⟨before, row, below, after, rfl, hindex⟩ := exists_append_cons_cons h
      exact ⟨row, below, before, after, rfl, moveRow_down_append_cons_cons hindex, hindex⟩
    · next h =>
      rw [moveRow, if_neg Bool.false_ne_true]
      exact swapRows_eq_self (by omega)

/-! ### What undoes them -/

/-- What undoes the operations on rows. -/
structure Undone (r : Repeater) (rows : List Obj) : Prop where
  append : r.canAdd rows.length = true → ∀ row,
    r.appendRow rows row = rows ++ [row] ∧
      r.removeRow (r.appendRow rows row) ((r.appendRow rows row).length - 1) = rows
  duplicate : r.canAdd rows.length = true → ∀ index : Int, 0 ≤ index → index < rows.length →
    r.removeRow (r.duplicateRow rows index) index = rows ∧
      r.removeRow (r.duplicateRow rows index) (index + 1) = rows
  moveUp : ∀ index : Int, 0 < index → index < rows.length →
    moveRow (moveRow rows index true) (index - 1) false = rows
  moveDown : ∀ index : Int, 0 ≤ index → index + 1 < rows.length →
    moveRow (moveRow rows index false) (index + 1) true = rows

/-- Rows that are no fewer than they have to be may be one fewer when there is one more. -/
theorem canRemove_succ (hrows : ∀ limit, r.minRows = some limit → limit ≤ rows.length) :
    r.canRemove (rows.length + 1) = true := by
  rw [canRemove_iff]
  intro limit hlimit
  have hlow := hrows limit hlimit
  omega

theorem undone (hrows : ∀ limit, r.minRows = some limit → limit ≤ rows.length) :
    r.Undone rows where
  append hadd row := by
    have happend : r.appendRow rows row = rows ++ [row] := if_pos hadd
    have hroom : r.canRemove (rows ++ [row]).length = true := by
      rw [List.length_append]
      exact canRemove_succ hrows
    refine ⟨happend, ?_⟩
    rw [happend, removeRow_append_cons ?_ hroom, List.append_nil]
    rw [List.length_append, List.length_singleton]
    omega
  duplicate hadd index hlow hhigh := by
    obtain ⟨before, row, after, rfl, hindex⟩ := exists_append_cons ⟨hlow, hhigh⟩
    have hroom : r.canRemove (before ++ row :: row :: after).length = true := by
      have hone := canRemove_succ hrows
      rwa [List.length_append, List.length_cons] at hone ⊢
    rw [duplicateRow_append_cons hindex hadd]
    refine ⟨removeRow_append_cons hindex hroom, ?_⟩
    -- behind the row itself stands its copy
    have hsplit : before ++ row :: row :: after = (before ++ [row]) ++ row :: after := by simp
    rw [hsplit] at hroom ⊢
    rw [removeRow_append_cons ?_ hroom]
    · simp
    · rw [List.length_append, List.length_singleton]
      omega
  moveUp index hlow hhigh := by
    have hpair : 0 ≤ index - 1 ∧ index - 1 + 1 < rows.length := by omega
    obtain ⟨before, above, row, after, rfl, hindex⟩ := exists_append_cons_cons hpair
    have hnext : (before.length : Int) + 1 = index := by omega
    rw [moveRow_up_append_cons_cons hnext, moveRow_down_append_cons_cons hindex]
  moveDown index hlow hhigh := by
    obtain ⟨before, row, below, after, rfl, hindex⟩ := exists_append_cons_cons ⟨hlow, hhigh⟩
    have hnext : (before.length : Int) + 1 = index + 1 := by omega
    rw [moveRow_down_append_cons_cons hindex, moveRow_up_append_cons_cons hnext]

/-- The bounds of a repeater are what its strict configuration holds. -/
theorem minRows_of_configOf {source : Value} {c : Obj} (h : configOf source = .ok c) :
    Obj.get c "minRows" = .ofInt? (ofConfig c).minRows := by
  rw [configOf] at h
  split at h
  · exact (bounds_of_repeaterConfigOf h).1
  · exact (bounds_of_repeaterConfigOf h).1

/-- Whatever a configuration has been read from: rows that are no fewer than it asks for are given
back when a row that was added is removed again, be it a new one or a copy, and when a row that was
moved is moved back. No operation does anything to other rows than those that it names. -/
theorem row_operations_undone {source : Value} {c : Obj} (h : configOf source = .ok c)
    {rows : List Obj} (hrows : ∀ limit, Obj.get c "minRows" = .int limit → limit ≤ rows.length) :
    (ofConfig c).Undone rows ∧ ∀ index, (ofConfig c).RowEffects rows index := by
  refine ⟨undone fun limit hlimit => hrows limit ?_, rowEffects (ofConfig c) rows⟩
  rw [minRows_of_configOf h, hlimit]
  rfl

/-- One row of a pair is duplicated, and either of the two is removed again. -/
theorem copy_of_row_removed :
    let r := ofConfig pairConfig
    let rows := rowsOf (.list [.obj [("label", .str "a")]])
    configOf (.obj [("minRows", .int 1), ("max_rows", .str "2")]) = .ok pairConfig ∧
      (∀ limit, Obj.get pairConfig "minRows" = .int limit → limit ≤ rows.length) ∧
      r.duplicateRow rows 0 = rows ++ rows ∧
      r.removeRow (r.duplicateRow rows 0) 0 = rows ∧
      r.removeRow (r.duplicateRow rows 0) 1 = rows := by
  intro r rows
  have hrows : ∀ limit, Obj.get pairConfig "minRows" = .int limit → limit ≤ rows.length := by
    rintro limit ⟨⟩
    decide
  have hundone := (row_operations_undone configOf_pair hrows).1.duplicate rfl 0 (by decide)
    (by decide)
  exact ⟨configOf_pair, hrows, rfl, hundone.1, hundone.2⟩

end Repeater

end ContentEngine
