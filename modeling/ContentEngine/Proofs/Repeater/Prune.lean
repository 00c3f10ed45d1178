import ContentEngine.Proofs.Members
import ContentEngine.Proofs.Repeater.Align
import ContentEngine.Proofs.Repeater.Config
import ContentEngine.Repeater.Prune

/-!
# What pruning leaves of rows

`prunedCell` says what is left of the value of a row under one subfield, and `PrunedRow` that a row
is what is left of another one. Pruning a row that has been aligned leads to such a row
(`prunedRow_of_pruneItem`), and from there to the same row again, so that pruning is idempotent
(`prune_prune`). The recursion runs over nested repeaters; it is followed on the weight of the
value.
-/

namespace ContentEngine

theorem Value.weight_lt_of_get? {o : Obj} {key : String} {v : Value}
    (h : Obj.get? o key = some v) : v.weight < membersWeight o := by
  have hle := membersWeight_erase_add_le o key (Obj.has_of_get?_eq_some h)
  rw [Obj.get_of_get?_eq_some h] at hle
  omega

theorem Value.weight_lt_of_mem {items : List Value} {v : Value} (h : v ∈ items) :
    v.weight < itemsWeight items := by
  induction items with
  | nil => contradiction
  | cons item rest ih =>
    rw [itemsWeight]
    rcases List.mem_cons.mp h with rfl | h
    · omega
    · have hlt := ih h
      omega

/-- A value that an aligned row holds has been in the row before, and is lighter than the row. -/
theorem Value.weight_lt_of_alignRow {item v : Value} {given : Obj} {subfields : List Subfield}
    {key : String} (hitem : item.asObj? = some given)
    (hv : Obj.get? (alignRow subfields given) key = some v) : v.weight < item.weight := by
  have hrow := weight_lt_of_get? hv
  have hgiven := membersWeight_alignRow_le subfields given
  have hmembers := membersWeight_asObj_lt hitem
  omega

theorem Value.eq_list_of_asList? {v : Value} {items : List Value} (h : v.asList? = some items) :
    v = .list items := by
  cases v <;> simp_all [asList?]

namespace Repeater

variable {r : Repeater} {depth : Int} {room : Nat} {s : Subfield} {subfields : List Subfield}
variable {row out : Obj}

/-! ### One cell -/

/-- What pruning leaves of the value of a row under a subfield: nothing if the subfield is a
repeater that is nested too deep. -/
def prunedCell (r : Repeater) (depth : Int) (s : Subfield) (v : Value) : Outcome (Option Value) :=
  if !s.isRepeater then .ok (some v)
  else if !r.canNest depth then .ok none
  else do
    let nested ← configOf (s.config.orElse (.obj []))
    return some (← prune (ofConfig nested) (depth + 1) v)

theorem prunedCell_of_isInert (h : r.isInert depth s = true) (v : Value) :
    prunedCell r depth s v = .ok none := by
  rw [isInert, Bool.and_eq_true] at h
  rw [prunedCell, if_neg (by rw [h.1]; decide), if_pos h.2]

theorem prunedCell_of_plain (h : s.isRepeater = false) (v : Value) :
    prunedCell r depth s v = .ok (some v) := by
  rw [prunedCell, if_pos (by rw [h]; rfl)]

theorem prunedCell_of_nested (hinert : r.isInert depth s = false) (h : s.isRepeater = true)
    (v : Value) :
    prunedCell r depth s v = (do
      let nested ← configOf (s.config.orElse (.obj []))
      return some (← prune (ofConfig nested) (depth + 1) v)) := by
  rw [isInert, h, Bool.true_and] at hinert
  rw [prunedCell, if_neg (by rw [h]; decide), if_neg (by rw [hinert]; decide)]

/-! ### All cells of a row -/

/-- The rules by which the cells of a row are pruned. -/
def cellRules (r : Repeater) (depth : Int) (subfields : List Subfield) : List Obj.Rule :=
  subfields.map fun s => (s.key, prunedCell r depth s)

/-- Pruning the cells starts with the first one, if there is room for its value. -/
theorem pruneCells_cons (hroom : ∀ v, Obj.get? row s.key = some v → v.weight < room) :
    pruneCells r depth room row (s :: subfields) = (do
      let next ← Obj.rewrite row (s.key, prunedCell r depth s)
      pruneCells r depth room next subfields) := by
  rw [pruneCells, Obj.rewrite]
  cases hget : Obj.get? row s.key with
  | none =>
    have hhas : ¬(Obj.has row s.key = true ∧ (Obj.get row s.key).weight < room) := by
      simp [Obj.has_of_get?_eq_none hget]
    -- without a value the row stays as it is on all three ways through the code
    have herase : Obj.erase row s.key = row := Table.erase_of_get? hget
    rw [dif_neg hhas, herase, ite_self, ite_self]
    rfl
  | some v =>
    have hv : Obj.get row s.key = v := Obj.get_of_get?_eq_some hget
    have hhas : Obj.has row s.key = true ∧ (Obj.get row s.key).weight < room := by
      rw [hv]
      exact ⟨Obj.has_of_get?_eq_some hget, hroom v hget⟩
    rw [dif_pos hhas, hv]
    simp only [prunedCell]
    split
    · have hset : Obj.set row s.key v = row := Table.set_of_get? hget
      simp only [Outcome.ok_bind, pure_bind, hset]
    · split
      · rfl
      · simp only [bind_assoc, pure_bind]

/-- With distinct keys there is room for all values if there is at first. -/
theorem pruneCells_eq_rewriteAll (hnodup : (subfields.map (·.key)).Nodup)
    (hroom : ∀ s ∈ subfields, ∀ v, Obj.get? row s.key = some v → v.weight < room) :
    pruneCells r depth room row subfields = Obj.rewriteAll row (cellRules r depth subfields) := by
  induction subfields generalizing row with
  | nil => rw [pruneCells, cellRules, List.map_nil, Obj.rewriteAll]
  | cons s rest ih =>
    rw [List.map_cons, List.nodup_cons] at hnodup
    rw [pruneCells_cons (hroom s List.mem_cons_self), cellRules, List.map_cons, Obj.rewriteAll]
    cases hnext : Obj.rewrite row (s.key, prunedCell r depth s) with
    | error fault => rfl
    | ok next =>
      -- the values under the other keys are still the same
      refine ih hnodup.2 fun t ht v hv => ?_
      have hne : t.key ≠ s.key := fun heq => hnodup.1 (List.mem_map.mpr ⟨t, ht, heq⟩)
      rw [Obj.get?_rewrite_of_ne hnext hne] at hv
      exact hroom t (List.mem_cons_of_mem s ht) v hv

theorem IsStrict.nodup_cellRules (hr : r.IsStrict) (depth : Int) :
    ((cellRules r depth r.subfields).map (·.1)).Nodup := by
  rw [cellRules, List.map_map]
  exact hr.nodup

/-- Whether a row is what pruning the cells of another row leaves. -/
abbrev PrunedRow (r : Repeater) (depth : Int) (row out : Obj) : Prop :=
  Obj.IsRewritten (cellRules r depth r.subfields) row out

theorem PrunedRow.cell (h : PrunedRow r depth row out) (hs : s ∈ r.subfields) {v : Value}
    (hv : Obj.get? row s.key = some v) : prunedCell r depth s v = .ok (Obj.get? out s.key) :=
  h.member (s.key, prunedCell r depth s) (List.mem_map_of_mem hs) v hv

/-! ### Rows and values -/

/-- What is no row stays as it is. -/
theorem pruneItem_of_none {item : Value} (h : item.asObj? = none) :
    pruneItem r depth item = .ok item := by
  rw [pruneItem]
  split
  · rfl
  · next given hgiven =>
    rw [h] at hgiven
    contradiction

theorem pruneItem_of_some {item : Value} {given : Obj} (h : item.asObj? = some given) :
    pruneItem r depth item =
      Value.obj <$> pruneCells r depth (Value.membersWeight (alignRow r.subfields given))
        (alignRow r.subfields given) r.subfields := by
  rw [pruneItem]
  split
  · next hnone =>
    rw [h] at hnone
    contradiction
  · next given' hgiven =>
    rw [h, Option.some.injEq] at hgiven
    subst hgiven
    rfl

/-- A row is pruned by aligning it and then rewriting its cells. -/
theorem pruneItem_eq_rewriteAll (hr : r.IsStrict) {item : Value} {given : Obj}
    (hitem : item.asObj? = some given) :
    pruneItem r depth item = Value.obj <$>
      Obj.rewriteAll (alignRow r.subfields given) (cellRules r depth r.subfields) := by
  rw [pruneItem_of_some hitem,
    pruneCells_eq_rewriteAll hr.nodup fun _ _ _ => Value.weight_lt_of_get?]

/-- Where no repeater is nested, a row is aligned and nothing else. -/
theorem pruneItem_of_plain (hr : r.IsStrict) (hplain : ∀ s ∈ r.subfields, s.isRepeater = false)
    {item : Value} {given : Obj} (hitem : item.asObj? = some given) :
    pruneItem r depth item = .ok (.obj (alignRow r.subfields given)) := by
  have hkept : ∀ rule ∈ cellRules r depth r.subfields, ∀ v,
      Obj.get? (alignRow r.subfields given) rule.1 = some v → rule.2 v = .ok (some v) := by
    intro rule hrule v _
    obtain ⟨s, hs, rfl⟩ := List.mem_map.mp hrule
    exact prunedCell_of_plain (hplain s hs) v
  rw [pruneItem_eq_rewriteAll hr hitem,
    (Obj.rewriteAll_eq_self_iff (hr.nodup_cellRules depth)).mpr hkept]
  rfl

/-- What pruning leaves of a row is what is left of the aligned row. -/
theorem exists_prunedRow_of_pruneItem (hr : r.IsStrict) {item w : Value} {given : Obj}
    (hitem : item.asObj? = some given) (h : pruneItem r depth item = .ok w) :
    ∃ out, w = .obj out ∧ PrunedRow r depth (alignRow r.subfields given) out := by
  rw [pruneItem_eq_rewriteAll hr hitem, map_eq_pure_bind, Outcome.bind_eq_ok_iff] at h
  obtain ⟨out, hout, h⟩ := h
  rw [Outcome.pure_eq_ok_iff] at h
  exact ⟨out, h.symm, Obj.isRewritten_of_rewriteAll (hr.nodup_cellRules depth) hout⟩

theorem pruneItems_eq_ok_iff {items ws : List Value} :
    pruneItems r depth items = .ok ws ↔
      List.Forall₂ (fun item w => pruneItem r depth item = .ok w) items ws := by
  induction items generalizing ws with
  | nil =>
    rw [pruneItems, List.forall₂_nil_left_iff, Except.ok.injEq, eq_comm]
  | cons item rest ih =>
    simp only [pruneItems, Outcome.bind_eq_ok_iff, Outcome.pure_eq_ok_iff,
      List.forall₂_cons_left_iff, ih]
    constructor
    · rintro ⟨w, hw, others, hothers, rfl⟩
      exact ⟨w, others, hw, hothers, rfl⟩
    · rintro ⟨w, others, hw, hothers, rfl⟩
      exact ⟨w, hw, others, hothers, rfl⟩

/-- Every pruned item is what is left of an item. -/
theorem exists_pruneItem_of_mem {items ws : List Value} (h : pruneItems r depth items = .ok ws)
    {w : Value} (hw : w ∈ ws) : ∃ item ∈ items, pruneItem r depth item = .ok w := by
  rw [pruneItems_eq_ok_iff] at h
  induction h with
  | nil => contradiction
  | cons hitem _ ih =>
    rcases List.mem_cons.mp hw with rfl | hw
    · exact ⟨_, List.mem_cons_self, hitem⟩
    · obtain ⟨item, hmem, hprune⟩ := ih hw
      exact ⟨item, List.mem_cons_of_mem _ hmem, hprune⟩

theorem prune_list (items : List Value) :
    prune r depth (.list items) = Value.list <$> pruneItems r depth items := by
  rw [prune]
  rfl

theorem prune_list_eq_ok_iff {items : List Value} {w : Value} :
    prune r depth (.list items) = .ok w ↔
      ∃ stored, pruneItems r depth items = .ok stored ∧ w = .list stored := by
  rw [prune_list, map_eq_pure_bind, Outcome.bind_eq_ok_iff]
  simp only [Outcome.pure_eq_ok_iff, @eq_comm _ (Value.list _)]

/-- A value that is no list has no rows to prune. -/
theorem prune_of_asList? {v : Value} (h : v.asList? = none) : prune r depth v = .ok v := by
  rw [prune]
  rintro items rfl
  contradiction

/-! ### Pruning twice -/

/-- A cell that has been pruned stays as it is, if this is so for what is nested in it. -/
theorem prunedCell_prunedCell {v w : Value}
    (hnested : ∀ config, (ofConfig config).IsStrict →
      prune (ofConfig config) (depth + 1) v = .ok w → prune (ofConfig config) (depth + 1) w = .ok w)
    (h : prunedCell r depth s v = .ok (some w)) : prunedCell r depth s w = .ok (some w) := by
  rw [prunedCell] at h ⊢
  split at h
  · next hplain => rw [if_pos hplain]
  · next hrepeater =>
    rw [if_neg hrepeater]
    split at h
    · simp at h
    · next hnest =>
      rw [if_neg hnest]
      simp only [Outcome.bind_eq_ok_iff, Outcome.pure_eq_ok_iff, Option.some.injEq] at h ⊢
      obtain ⟨config, hconfig, _, hprune, rfl⟩ := h
      exact ⟨config, hconfig, _, hnested config (isStrict_of_configOf hconfig) hprune, rfl⟩

/-- A pruned row is aligned. -/
theorem PrunedRow.alignRow_eq_self (hr : r.IsStrict) {given : Obj}
    (h : PrunedRow r depth (alignRow r.subfields given) out) :
    alignRow r.subfields out = out := by
  refine ContentEngine.alignRow_eq_self fun s hs halias => ?_
  exact Obj.has_of_get?_eq_none
    (h.get?_eq_none (get?_alignRow_camelCase hr.isKey given hs halias))

/-- A row that has been pruned stays as it is, if this is so for all that is nested in it. -/
theorem pruneItem_pruneItem (hr : r.IsStrict) {item w : Value}
    (hnested : ∀ config v w, (ofConfig config).IsStrict → v.weight < item.weight →
      prune (ofConfig config) (depth + 1) v = .ok w → prune (ofConfig config) (depth + 1) w = .ok w)
    (h : pruneItem r depth item = .ok w) : pruneItem r depth w = .ok w := by
  cases hitem : item.asObj? with
  | none =>
    have hw : item = w := by rwa [pruneItem_of_none hitem, Except.ok.injEq] at h
    rw [← hw, pruneItem_of_none hitem]
  | some given =>
    obtain ⟨out, rfl, hout⟩ := exists_prunedRow_of_pruneItem hr hitem h
    have hcells : ∀ rule ∈ cellRules r depth r.subfields, ∀ u, Obj.get? out rule.1 = some u →
        rule.2 u = .ok (some u) := by
      intro rule hrule u hu
      obtain ⟨s, hs, rfl⟩ := List.mem_map.mp hrule
      cases hv : Obj.get? (alignRow r.subfields given) s.key with
      | none =>
        rw [hout.get?_eq_none hv] at hu
        contradiction
      | some v =>
        have hlt := Value.weight_lt_of_alignRow hitem hv
        have hcell := hout.cell hs hv
        rw [hu] at hcell
        exact prunedCell_prunedCell (fun config hstrict => hnested config v u hstrict hlt) hcell
    rw [pruneItem_eq_rewriteAll hr rfl, hout.alignRow_eq_self hr,
      (Obj.rewriteAll_eq_self_iff (hr.nodup_cellRules depth)).mpr hcells]
    rfl

/-- Pruning what has been pruned changes nothing. -/
theorem prune_prune (hr : r.IsStrict) {v w : Value} (h : prune r depth v = .ok w) :
    prune r depth w = .ok w := by
  -- the values under nested repeaters weigh less than the value
  induction hn : v.weight using Nat.strong_induction_on generalizing r depth v w with
  | _ n ih =>
    cases hv : v.asList? with
    | none =>
      have hw : v = w := by rwa [prune_of_asList? hv, Except.ok.injEq] at h
      rw [← hw, prune_of_asList? hv]
    | some items =>
      obtain rfl := Value.eq_list_of_asList? hv
      obtain ⟨ws, hws, rfl⟩ := prune_list_eq_ok_iff.mp h
      have htwice : pruneItems r depth ws = .ok ws := by
        rw [pruneItems_eq_ok_iff, List.forall₂_same]
        intro w hw
        obtain ⟨item, hitem, hw⟩ := exists_pruneItem_of_mem hws hw
        have hlt : item.weight < n := by
          have hitems := Value.weight_lt_of_mem hitem
          rw [Value.weight] at hn
          omega
        exact pruneItem_pruneItem hr
          (fun config u u' hstrict hu hprune => ih u.weight (by omega) hstrict hprune rfl) hw
      rw [prune_list, htwice]
      rfl

end Repeater

end ContentEngine
