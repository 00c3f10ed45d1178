import Mathlib
import ContentEngine.Proofs.Repeater.Config
import ContentEngine.Repeater.Rows

/-!
# Editing sessions

An editing session is a list of operations on the rows of a repeater, of which each goes on from
the rows that the one before it has left. An operation makes the rows one more only if there may be
more, and one fewer only if there may be fewer (`Repeater.applyOp_cases`). So over a whole session
the number of rows stays between the two bounds, or does not get further away from them than it was
at the start (`Repeater.session_keepsBounds`).
-/

namespace ContentEngine

namespace Repeater

variable {r : Repeater} {rows : List Obj} {index : Int} {i : Nat}

/-- The rows after a session. -/
def session (r : Repeater) (rows : List Obj) (ops : List Value) : List Obj :=
  ops.foldl (fun rows op => r.applyOp rows (.ofValue op)) rows

/-! ### Bounds -/

/-- Whether so many rows are within the bounds, as far as these are set. -/
structure Allows (r : Repeater) (count : Nat) : Prop where
  low : ∀ limit, r.minRows = some limit → limit ≤ count
  high : ∀ limit, r.maxRows = some limit → count ≤ limit

/-- Whether a number of rows that comes of another one is within the bounds, or beyond them no
further than the other one. -/
structure KeepsBounds (r : Repeater) (start count : Nat) : Prop where
  low : ∀ limit, r.minRows = some limit → min (start : Int) limit ≤ count
  high : ∀ limit, r.maxRows = some limit → (count : Int) ≤ max (start : Int) limit

theorem canAdd_iff {count : Nat} :
    r.canAdd count = true ↔ ∀ limit, r.maxRows = some limit → (count : Int) < limit := by
  rw [canAdd]
  cases r.maxRows <;> simp

theorem canRemove_iff {count : Nat} :
    r.canRemove count = true ↔ ∀ limit, r.minRows = some limit → limit < (count : Int) := by
  rw [canRemove]
  cases r.minRows <;> simp

theorem KeepsBounds.refl (r : Repeater) (count : Nat) : r.KeepsBounds count count where
  low limit _ := by omega
  high limit _ := by omega

/-- From within the bounds no step leads out of them. -/
theorem KeepsBounds.allows {start count : Nat} (h : r.KeepsBounds start count)
    (hstart : r.Allows start) : r.Allows count where
  low limit hlimit := by
    have hlow := h.low limit hlimit
    have hfirst := hstart.low limit hlimit
    omega
  high limit hlimit := by
    have hhigh := h.high limit hlimit
    have hfirst := hstart.high limit hlimit
    omega

/-- One row more, if there may be more. -/
theorem KeepsBounds.succ {start count : Nat} (h : r.KeepsBounds start count)
    (hadd : r.canAdd count = true) : r.KeepsBounds start (count + 1) where
  low limit hlimit := by
    have hlow := h.low limit hlimit
    omega
  high limit hlimit := by
    have hroom := canAdd_iff.mp hadd limit hlimit
    omega

/-- One row fewer, if there may be fewer. -/
theorem KeepsBounds.pred {start count : Nat} (h : r.KeepsBounds start (count + 1))
    (hremove : r.canRemove (count + 1) = true) : r.KeepsBounds start count where
  low limit hlimit := by
    have hroom := canRemove_iff.mp hremove limit hlimit
    omega
  high limit hlimit := by
    have hhigh := h.high limit hlimit
    omega

/-! ### One operation -/

theorem position?_eq_some_iff {length : Nat} :
    position? index length = some i ↔ index = i ∧ i < length := by
  rw [position?]
  split
  · rw [Option.some.injEq]
    omega
  · simp only [reduceCtorEq, false_iff]
    omega

theorem removeRow_of_position? (h : position? index rows.length = some i) :
    r.removeRow rows index = if r.canRemove rows.length then rows.eraseIdx i else rows := by
  rw [removeRow, h, List.eraseIdx_eq_take_drop_succ]

/-- A row is duplicated by taking the rows up to it, and then those from it on. -/
theorem duplicateRow_of_position? (h : position? index rows.length = some i) :
    r.duplicateRow rows index =
      if r.canAdd rows.length then rows.take (i + 1) ++ rows.drop i else rows := by
  have hcopy : (rows.drop i).take 1 ++ rows.drop (i + 1) = rows.drop i := by
    rw [← List.drop_drop, List.take_append_drop]
  rw [duplicateRow, h]
  simp only [List.append_assoc, hcopy]

theorem length_swapRows (rows : List Obj) (index target : Int) :
    (swapRows rows index target).length = rows.length := by
  rw [swapRows]
  split
  · split
    · simp
    · rfl
  · rfl

theorem length_updateRow (rows : List Obj) (index : Int) (patch : Value) :
    (updateRow rows index patch).length = rows.length := by
  rw [updateRow]
  split
  · simp
  · rfl

/-- An operation leaves the number of rows as it is, or makes it one more where there may be more,
or one fewer where there may be fewer. -/
theorem applyOp_cases (r : Repeater) (rows : List Obj) (op : RowOp) :
    (r.applyOp rows op).length = rows.length ∨
      (r.canAdd rows.length = true ∧ (r.applyOp rows op).length = rows.length + 1) ∨
      (r.canRemove rows.length = true ∧ (r.applyOp rows op).length + 1 = rows.length) := by
  cases op with
  | append row =>
    rw [applyOp, appendRow]
    split
    · next hadd => exact .inr (.inl ⟨hadd, List.length_append⟩)
    · exact .inl rfl
  | remove index =>
    rw [applyOp]
    cases hposition : position? index rows.length with
    | none =>
      rw [removeRow, hposition]
      exact .inl rfl
    | some i =>
      rw [removeRow_of_position? hposition]
      split
      · next hremove =>
        have hlt := (position?_eq_some_iff.mp hposition).2
        exact .inr (.inr ⟨hremove, List.length_eraseIdx_add_one hlt⟩)
      · exact .inl rfl
  | duplicate index =>
    rw [applyOp]
    cases hposition : position? index rows.length with
    | none =>
      rw [duplicateRow, hposition]
      exact .inl rfl
    | some i =>
      rw [duplicateRow_of_position? hposition]
      split
      · next hadd =>
        have hlt := (position?_eq_some_iff.mp hposition).2
        refine .inr (.inl ⟨hadd, ?_⟩)
        rw [List.length_append, List.length_take, List.length_drop]
        omega
      · exact .inl rfl
  | moveUp index | moveDown index => exact .inl (length_swapRows rows _ _)
  | update index patch => exact .inl (length_updateRow rows index patch)
  | keep => exact .inl rfl

theorem KeepsBounds.applyOp {start : Nat} (h : r.KeepsBounds start rows.length) (op : RowOp) :
    r.KeepsBounds start (r.applyOp rows op).length := by
  rcases applyOp_cases r rows op with hsame | ⟨hadd, hmore⟩ | ⟨hremove, hfewer⟩
  · rw [hsame]
    exact h
  · rw [hmore]
    exact h.succ hadd
  · rw [← hfewer] at h hremove
    exact h.pred hremove

/-! ### Sessions -/

/-- A session keeps the number of rows within the bounds, or lets it get no further away from them
than it was at the start. -/
theorem session_keepsBounds (r : Repeater) (rows : List Obj) (ops : List Value) :
    r.KeepsBounds rows.length (r.session rows ops).length := by
  have hrun : ∀ (now : List Obj), r.KeepsBounds rows.length now.length →
      r.KeepsBounds rows.length (r.session now ops).length := by
    induction ops with
    | nil => exact fun now h => h
    | cons op rest ih => exact fun now h => ih _ (h.applyOp (.ofValue op))
  exact hrun rows (.refl r rows.length)

/-- Whether a value is an operation of some name. -/
def Names (op : Value) (name : String) : Prop :=
  ∃ o, op.asObj? = some o ∧ Obj.get o "op" = .str name

/-- What one operation does to rows: the number of rows changes by one at most, and what makes it
one more or one fewer does so exactly if there may be more or fewer. -/
structure OpLaw (r : Repeater) (rows : List Obj) (op : Value) : Prop where
  le_add_one : (r.applyOp rows (.ofValue op)).length ≤ rows.length + 1
  add_one_ge : rows.length ≤ (r.applyOp rows (.ofValue op)).length + 1
  append : Names op "append" →
    (r.applyOp rows (.ofValue op) = rows ++ [Obj.getObj op.members "row"] ↔
      r.canAdd rows.length = true)
  remove : Names op "remove" → ∀ i < rows.length, RowOp.indexOf op.members = i →
    (r.applyOp rows (.ofValue op) = rows.eraseIdx i ↔ r.canRemove rows.length = true)
  duplicate : Names op "duplicate" → ∀ i < rows.length, RowOp.indexOf op.members = i →
    (r.applyOp rows (.ofValue op) = rows.take (i + 1) ++ rows.drop i ↔
      r.canAdd rows.length = true)

/-- What an operation is by its name. -/
theorem ofValue_of_names {op : Value} {name : String} (h : Names op name) :
    (name = "append" → RowOp.ofValue op = .append (Obj.getObj op.members "row")) ∧
      (name = "remove" → RowOp.ofValue op = .remove (RowOp.indexOf op.members)) ∧
      (name = "duplicate" → RowOp.ofValue op = .duplicate (RowOp.indexOf op.members)) ∧
      (name = "update" → RowOp.ofValue op =
        .update (RowOp.indexOf op.members) ((Obj.get op.members "patch").orElse (.obj []))) := by
  obtain ⟨o, ho, hname⟩ := h
  have hmembers : op.members = o := by rw [Value.members, ho, Option.getD_some]
  rw [hmembers, RowOp.ofValue, ho]
  refine ⟨?_, ?_, ?_, ?_⟩ <;>
  · rintro rfl
    simp only [hname]
    rfl

theorem opLaw (r : Repeater) (rows : List Obj) (op : Value) : r.OpLaw rows op := by
  have hcases := applyOp_cases r rows (.ofValue op)
  refine ⟨by omega, by omega, fun hname => ?_, fun hname i hi hindex => ?_,
    fun hname i hi hindex => ?_⟩
  · rw [(ofValue_of_names hname).1 rfl, applyOp, appendRow]
    simp
  · rw [(ofValue_of_names hname).2.1 rfl, applyOp,
      removeRow_of_position? (position?_eq_some_iff.mpr ⟨hindex, hi⟩), ite_eq_left_iff]
    refine ⟨fun h => ?_, fun hremove hnot => absurd hremove hnot⟩
    by_contra hnot
    have hlength := List.length_eraseIdx_add_one hi
    rw [← h hnot] at hlength
    omega
  · rw [(ofValue_of_names hname).2.2.1 rfl, applyOp,
      duplicateRow_of_position? (position?_eq_some_iff.mpr ⟨hindex, hi⟩), ite_eq_left_iff]
    refine ⟨fun h => ?_, fun hadd hnot => absurd hadd hnot⟩
    by_contra hnot
    have hlength := congrArg List.length (h hnot)
    rw [List.length_append, List.length_take, List.length_drop] at hlength
    omega

/-! ### Bounds that have been read -/

/-- A repeater with a strict configuration has the bounds that the configuration holds. -/
theorem bounds_of_repeaterConfigOf {config c : Obj} (h : FieldDef.repeaterConfigOf config = .ok c) :
    Obj.get c "minRows" = .ofInt? (ofConfig c).minRows ∧
      Obj.get c "maxRows" = .ofInt? (ofConfig c).maxRows := by
  simp only [FieldDef.repeaterConfigOf, Outcome.bind_eq_ok_iff] at h
  obtain ⟨limits, -, fields, -, h⟩ := h
  obtain ⟨rules, texts, -, -, rfl⟩ := repeaterNormalConfig_eq_ok_iff.mp h
  rw [ofConfig, get_merge_repeaterMembers (v := .ofInt? limits.minRows) rfl,
    get_merge_repeaterMembers (v := .ofInt? limits.maxRows) rfl]
  exact ⟨by cases limits.minRows <;> rfl, by cases limits.maxRows <;> rfl⟩

/-- Whatever a configuration has been read from and whatever rows and operations are given: the
repeater has the bounds that its strict configuration holds, a session keeps the number of rows
within them or lets it get no further away from them, and the next operation follows the law. -/
theorem row_count_over_session {source : Value} {c : Obj} (h : configOf source = .ok c)
    (value : Value) (ops : List Value) :
    (Obj.get c "minRows" = .ofInt? (ofConfig c).minRows ∧
      Obj.get c "maxRows" = .ofInt? (ofConfig c).maxRows) ∧
    (ofConfig c).KeepsBounds (rowsOf value).length
      ((ofConfig c).session (rowsOf value) ops).length ∧
    ((ofConfig c).Allows (rowsOf value).length →
      (ofConfig c).Allows ((ofConfig c).session (rowsOf value) ops).length) ∧
    ∀ op, (ofConfig c).OpLaw ((ofConfig c).session (rowsOf value) ops) op := by
  have hbounds : Obj.get c "minRows" = .ofInt? (ofConfig c).minRows ∧
      Obj.get c "maxRows" = .ofInt? (ofConfig c).maxRows := by
    rw [configOf] at h
    split at h
    · exact bounds_of_repeaterConfigOf h
    · exact bounds_of_repeaterConfigOf h
  have hkeeps := session_keepsBounds (ofConfig c) (rowsOf value) ops
  exact ⟨hbounds, hkeeps, hkeeps.allows, fun op => opLaw _ _ op⟩

/-! ### A list with one or two rows -/

/-- The strict configuration of a repeater with one or two rows. -/
def pairConfig : Obj :=
  [("minRows", .int 1), ("maxRows", .int 2), ("addLabel", .str "Add row"),
    ("layout", .str "cards"), ("maxDepth", .int 2), ("rowLabelTemplate", .str ""),
    ("subfields", .list []), ("rules", .list [])]

theorem configOf_pair : configOf (.obj [("minRows", .int 1), ("max_rows", .str "2")]) =
    .ok pairConfig := by
  cbv

/-- Of three operations that add a row the first one alone takes effect. -/
theorem pair_gets_no_third_row :
    configOf (.obj [("minRows", .int 1), ("max_rows", .str "2")]) = .ok pairConfig ∧
      (ofConfig pairConfig).Allows ((ofConfig pairConfig).session (rowsOf (.list [.obj []]))
        [.obj [("op", .str "duplicate"), ("index", .int 0)], .obj [("op", .str "append")],
          .obj [("op", .str "append")]]).length := by
  have hlaw := row_count_over_session configOf_pair (.list [.obj []])
    [.obj [("op", .str "duplicate"), ("index", .int 0)], .obj [("op", .str "append")],
      .obj [("op", .str "append")]]
  refine ⟨configOf_pair, hlaw.2.2.1 ⟨?_, ?_⟩⟩
  · rintro limit ⟨⟩
    decide
  · rintro limit ⟨⟩
    decide

end Repeater

end ContentEngine
