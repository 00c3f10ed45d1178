import Mathlib
import ContentEngine.Proofs.Repeater.View

/-!
# What is shown is what is stored

The rows of a repeater are shown by one recursion and pruned for storage by another. `RowsAgree`
says that what they give for the same items agrees, row by row and cell by cell, and again for the
rows of every nested repeater that is shown. It holds whenever both have a result
(`rowsAgree_of_viewRows`).
-/

namespace ContentEngine

namespace Repeater

mutual

/-- Whether what is shown of the items of a repeater's value at a depth agrees with what is stored
of them, item by item. -/
inductive RowsAgree : Repeater → Int → List Value → List RowView → List Value → Prop
  | nil {r depth} : RowsAgree r depth [] [] []
  /-- An item that is no row is stored as it is. -/
  | other {r depth item items view views stored} : item.asObj? = none →
      RowsAgree r depth items views stored →
      RowsAgree r depth (item :: items) (view :: views) (item :: stored)
  | row {r depth item given items index label cells views out stored} :
      item.asObj? = some given → CellsAgree r depth r.subfields cells out →
      RowsAgree r depth items views stored →
      RowsAgree r depth (item :: items) (.row index label cells :: views) (.obj out :: stored)

/-- Whether the cells that are shown for some subfields agree with a row that is stored. -/
inductive CellsAgree : Repeater → Int → List Subfield → List CellView → Obj → Prop
  | nil {r depth out} : CellsAgree r depth [] [] out
  | cons {r depth s subfields cell cells out} : CellAgrees r depth s cell out →
      CellsAgree r depth subfields cells out →
      CellsAgree r depth (s :: subfields) (cell :: cells) out

/-- Whether the cell that is shown for a subfield agrees with a row that is stored. -/
inductive CellAgrees : Repeater → Int → Subfield → CellView → Obj → Prop
  /-- An inert cell shows no value and no rows, and nothing is stored under its key. -/
  | inert {r depth s shown out} : r.isInert depth s = true → Obj.has out s.key = false →
      CellAgrees r depth s (.inert s.key shown) out
  /-- A hidden cell shows nothing of what is stored. -/
  | hidden {r depth s out} : r.isInert depth s = false →
      CellAgrees r depth s (.hidden s.key s.type) out
  /-- A plain cell shows what is stored. -/
  | plain {r depth s out} : s.isRepeater = false →
      CellAgrees r depth s (.plain s.key s.type (Obj.get out s.key)) out
  /-- The rows of a nested repeater agree with the list that is stored, one level deeper and under
  the strict configuration of the subfield. -/
  | rows {r depth s config items stored head views out} : r.isInert depth s = false →
      s.isRepeater = true → configOf (s.config.orElse (.obj [])) = .ok config →
      Obj.get? out s.key = some (.list stored) →
      RowsAgree (ofConfig config) (depth + 1) items views stored →
      CellAgrees r depth s (.nested s.key (.list items) head views) out
  /-- What is no list has no rows and is shown as it is stored. -/
  | noRows {r depth s head out} : r.isInert depth s = false → s.isRepeater = true →
      (Obj.get out s.key).asList? = none →
      CellAgrees r depth s (.nested s.key (Obj.get out s.key) head []) out

end

variable {r : Repeater} {depth : Depth} {s : Subfield}

theorem RowsAgree.length_eq {level : Int} {items stored : List Value} {views : List RowView}
    (h : RowsAgree r level items views stored) :
    views.length = items.length ∧ stored.length = items.length := by
  induction items generalizing views stored with
  | nil =>
    cases h
    exact ⟨rfl, rfl⟩
  | cons item rest ih =>
    cases h with
    | other _ hrest | row _ _ hrest =>
      obtain ⟨hviews, hstored⟩ := ih hrest
      exact ⟨congrArg (· + 1) hviews, congrArg (· + 1) hstored⟩

/-! ### One cell -/

variable {row out : Obj}

/-- Under the key of an inert subfield nothing is left. -/
theorem PrunedRow.get?_of_isInert (h : PrunedRow r depth.level row out) (hs : s ∈ r.subfields)
    (hinert : r.isInert depth.level s = true) : Obj.get? out s.key = none := by
  cases hv : Obj.get? row s.key with
  | none => exact h.get?_eq_none hv
  | some v =>
    have hcell := h.cell hs hv
    rw [prunedCell_of_isInert hinert, Except.ok.injEq] at hcell
    exact hcell.symm

/-- Under the key of a subfield that is no repeater the value stays. -/
theorem PrunedRow.get?_of_plain (h : PrunedRow r depth.level row out) (hs : s ∈ r.subfields)
    (hplain : s.isRepeater = false) : Obj.get? out s.key = Obj.get? row s.key := by
  cases hv : Obj.get? row s.key with
  | none => exact h.get?_eq_none hv
  | some v =>
    have hcell := h.cell hs hv
    rw [prunedCell_of_plain hplain, Except.ok.injEq] at hcell
    exact hcell.symm

/-- Under the key of a nested repeater that is not too deep its pruned value is left. -/
theorem PrunedRow.get?_of_nested (h : PrunedRow r depth.level row out) (hs : s ∈ r.subfields)
    (hinert : r.isInert depth.level s = false) (hrepeater : s.isRepeater = true) {config : Obj}
    (hconfig : configOf (s.config.orElse (.obj [])) = .ok config) {v : Value}
    (hv : Obj.get? row s.key = some v) :
    ∃ w, prune (ofConfig config) depth.next.level v = .ok w ∧ Obj.get? out s.key = some w := by
  have hcell := h.cell hs hv
  rw [prunedCell_of_nested hinert hrepeater, hconfig, Outcome.ok_bind] at hcell
  simp only [Outcome.bind_eq_ok_iff, Outcome.pure_eq_ok_iff] at hcell
  obtain ⟨w, hw, hout⟩ := hcell
  exact ⟨w, hw, hout.symm⟩

/-- The cell of a subfield agrees with the pruned row, if the rows of a nested repeater do. -/
theorem cellAgrees_of_viewCell {shown : VisibilityMap} {cell : CellView} (hs : s ∈ r.subfields)
    (hout : PrunedRow r depth.level row out) (hcell : viewCell r depth row shown s = .ok cell)
    (hnested : ∀ config items views stored, Obj.get? row s.key = some (.list items) →
      (ofConfig config).IsStrict →
      viewRows (ofConfig config) depth.next 0 (items.map Value.members) = .ok views →
      pruneItems (ofConfig config) depth.next.level items = .ok stored →
      RowsAgree (ofConfig config) depth.next.level items views stored) :
    CellAgrees r depth.level s cell out := by
  obtain ⟨hinert, rfl⟩ | ⟨hinert, rfl⟩ | ⟨-, hplain, rfl⟩ |
    ⟨hinert, hrepeater, nested, hview, rfl⟩ := viewCell_cases hcell
  · exact .inert hinert (Obj.has_of_get?_eq_none (hout.get?_of_isInert hs hinert))
  · exact .hidden hinert
  · have hvalue : Obj.get row s.key = Obj.get out s.key := by
      rw [Obj.get, Obj.get, hout.get?_of_plain hs hplain]
    rw [hvalue]
    exact .plain hplain
  · obtain ⟨config, views, hconfig, hviews, rfl⟩ := view_eq_ok_iff.mp hview
    cases hitems : (Obj.get row s.key).asList? with
    | none =>
      -- without a list there are no rows, and pruning leaves the value alone
      have hsame : Obj.get out s.key = Obj.get row s.key := by
        cases hv : Obj.get? row s.key with
        | none => rw [Obj.get, Obj.get, hv, hout.get?_eq_none hv]
        | some v =>
          obtain ⟨w, hw, hget⟩ := hout.get?_of_nested hs hinert hrepeater hconfig hv
          rw [Obj.get_of_get?_eq_some hv] at hitems
          rw [prune_of_asList? hitems, Except.ok.injEq] at hw
          rw [Obj.get, Obj.get, hv, hget, hw]
      have hrows : rowsOf (Obj.get row s.key) = [] := by rw [rowsOf, hitems]; rfl
      rw [hrows, viewRows, Except.ok.injEq] at hviews
      rw [← hviews, ← hsame]
      exact .noRows hinert hrepeater (hsame ▸ hitems)
    | some items =>
      have hvalue := Value.eq_list_of_asList? hitems
      have hv : Obj.get? row s.key = some (.list items) := by
        cases hv : Obj.get? row s.key with
        | none => simp [Obj.get, hv] at hvalue
        | some v => rw [← hvalue, Obj.get_of_get?_eq_some hv]
      obtain ⟨w, hw, hget⟩ := hout.get?_of_nested hs hinert hrepeater hconfig hv
      obtain ⟨stored, hstored, rfl⟩ := prune_list_eq_ok_iff.mp hw
      rw [hvalue] at hviews ⊢
      exact .rows hinert hrepeater hconfig hget
        (hnested config items views stored hv (isStrict_of_configOf hconfig) hviews hstored)

/-! ### All rows -/

theorem cellsAgree_of_viewCells {level : Int} {shown : VisibilityMap} {subfields : List Subfield}
    {cells : List CellView} (hcells : viewCells r depth row shown subfields = .ok cells)
    (hcell : ∀ s ∈ subfields, ∀ cell, viewCell r depth row shown s = .ok cell →
      CellAgrees r level s cell out) :
    CellsAgree r level subfields cells out := by
  induction subfields generalizing cells with
  | nil =>
    rw [viewCells, Except.ok.injEq] at hcells
    rw [← hcells]
    exact .nil
  | cons s rest ih =>
    simp only [viewCells, Outcome.bind_eq_ok_iff, Outcome.pure_eq_ok_iff] at hcells
    obtain ⟨cell, hfirst, others, hothers, rfl⟩ := hcells
    exact .cons (hcell s List.mem_cons_self cell hfirst)
      (ih hothers fun t ht => hcell t (List.mem_cons_of_mem s ht))

/-- What is shown of rows agrees with what is stored of them. -/
theorem rowsAgree_of_viewRows (hr : r.IsStrict) {index : Nat} {items stored : List Value}
    {views : List RowView} (hviews : viewRows r depth index (items.map Value.members) = .ok views)
    (hstored : pruneItems r depth.level items = .ok stored) :
    RowsAgree r depth.level items views stored := by
  -- the items of nested repeaters weigh less, and so does the rest of the items
  induction hn : Value.itemsWeight items using Nat.strong_induction_on
    generalizing r depth index items stored views with
  | _ n ih =>
    cases items with
    | nil =>
      rw [List.map_nil, viewRows, Except.ok.injEq] at hviews
      rw [pruneItems, Except.ok.injEq] at hstored
      rw [← hviews, ← hstored]
      exact .nil
    | cons item rest =>
      rw [Value.itemsWeight] at hn
      simp only [List.map_cons, viewRows, Outcome.bind_eq_ok_iff, Outcome.pure_eq_ok_iff] at hviews
      obtain ⟨shown, -, cells, hcells, label, -, others, hothers, rfl⟩ := hviews
      simp only [pruneItems, Outcome.bind_eq_ok_iff, Outcome.pure_eq_ok_iff] at hstored
      obtain ⟨w, hw, storedRest, hrest, rfl⟩ := hstored
      have hagree := ih _ (by omega) hr hothers hrest rfl
      cases hitem : item.asObj? with
      | none =>
        rw [pruneItem_of_none hitem, Except.ok.injEq] at hw
        rw [← hw]
        exact .other hitem hagree
      | some given =>
        obtain ⟨out, rfl, hout⟩ := exists_prunedRow_of_pruneItem hr hitem hw
        have hmembers : item.members = given := by rw [Value.members, hitem, Option.getD_some]
        rw [hmembers] at hcells
        refine .row hitem (cellsAgree_of_viewCells hcells fun s hs cell hcell => ?_) hagree
        refine cellAgrees_of_viewCell hs hout hcell fun _ _ _ _ hv hstrict => ?_
        have hlt := Value.weight_lt_of_alignRow hitem hv
        rw [Value.weight] at hlt
        exact fun hviews hstored => ih _ (by omega) hstrict hviews hstored rfl

/-- Under a strict configuration, what is shown of a list and what is stored of it have one entry
for each item of the list, and agree item by item, cell by cell and to any nesting depth. -/
theorem shown_rows_are_stored {given config : Obj} {items : List Value} {views : List RowView}
    {w : Value} (hconfig : FieldDef.repeaterConfigOf given = .ok config)
    (hview : viewRows (ofConfig config) depth 0 (rowsOf (.list items)) = .ok views)
    (hprune : prune (ofConfig config) depth.level (.list items) = .ok w) :
    ∃ stored, w = .list stored ∧ views.length = items.length ∧ stored.length = items.length ∧
      RowsAgree (ofConfig config) depth.level items views stored := by
  obtain ⟨stored, hstored, rfl⟩ := prune_list_eq_ok_iff.mp hprune
  have hagree := rowsAgree_of_viewRows (isStrict_of_repeaterConfigOf hconfig) hview hstored
  exact ⟨stored, rfl, hagree.length_eq.1, hagree.length_eq.2, hagree⟩

/-! ### Orders with items -/

/-- Items with a text and with items of their own, which are too deep. -/
def itemsConfig : Obj :=
  usualConfig defaultMaxDepth [] [usualField "text" .text 0 [],
    usualField "more" .repeater 1 (usualConfig defaultMaxDepth [] [])]

/-- The subfield of the items of an order. -/
def itemsSubfield : Subfield := (usualField "line_items" .repeater 1 itemsConfig).toSubfield

/-- Orders with a heading and with items. -/
def ordersConfig : Obj :=
  usualConfig defaultMaxDepth [] [usualField "heading" .text 0 [],
    usualField "line_items" .repeater 1 itemsConfig]

/-- The items of an order as they are given. -/
def givenItems : Value := .list [.obj [("text", .int 5), ("more", .list [])]]

/-- The items of an order as they are stored at depth 2. -/
def storedItems : Value := .list [.obj [("text", .int 5)]]

/-- The items of an order as they are shown at depth 2. -/
def shownItems : List RowView :=
  [.row 0 "Row 1" [.plain "text" (.str "text") (.int 5), .inert "more" (.ofInt 2)]]

/-- An order with its items under the alias of their key. -/
def givenOrder : Obj := [("heading", .str "h"), ("lineItems", givenItems)]

/-- An order with its items under their key. -/
def alignedOrder : Obj := [("heading", .str "h"), ("line_items", givenItems)]

theorem repeaterConfigOf_ordersConfig :
    FieldDef.repeaterConfigOf ordersConfig = .ok ordersConfig := by
  cbv

theorem configOf_itemsConfig :
    configOf (itemsSubfield.config.orElse (.obj [])) = .ok itemsConfig := by
  cbv

theorem prune_givenItems : prune (ofConfig itemsConfig) 2 givenItems = .ok storedItems := by
  have hstrict := isStrict_of_configOf configOf_itemsConfig
  rw [givenItems, prune_list, pruneItems, pruneItem_eq_rewriteAll hstrict rfl, pruneItems]
  rfl

theorem prunedCell_givenItems : prunedCell (ofConfig ordersConfig) 1 itemsSubfield givenItems =
    .ok (some storedItems) := by
  rw [prunedCell_of_nested rfl rfl, configOf_itemsConfig, Outcome.ok_bind,
    show (1 : Int) + 1 = 2 from rfl, prune_givenItems]
  rfl

theorem prune_givenOrder : prune (ofConfig ordersConfig) 1 (.list [.obj givenOrder]) =
    .ok (.list [.obj [("heading", .str "h"), ("line_items", storedItems)]]) := by
  have hstrict := isStrict_of_repeaterConfigOf repeaterConfigOf_ordersConfig
  have hrules : cellRules (ofConfig ordersConfig) 1 (ofConfig ordersConfig).subfields =
      [("heading",
          prunedCell (ofConfig ordersConfig) 1 (usualField "heading" .text 0 []).toSubfield),
        ("line_items", prunedCell (ofConfig ordersConfig) 1 itemsSubfield)] := rfl
  have hheading : Obj.rewrite alignedOrder ("heading",
      prunedCell (ofConfig ordersConfig) 1 (usualField "heading" .text 0 []).toSubfield) =
      .ok alignedOrder := rfl
  have hitems : Obj.rewrite alignedOrder
      ("line_items", prunedCell (ofConfig ordersConfig) 1 itemsSubfield) =
      .ok [("heading", .str "h"), ("line_items", storedItems)] := by
    rw [Obj.rewrite, show Obj.get? alignedOrder "line_items" = some givenItems from rfl]
    simp only [prunedCell_givenItems]
    rfl
  rw [prune_list, pruneItems, pruneItem_eq_rewriteAll hstrict rfl, pruneItems,
    show alignRow (ofConfig ordersConfig).subfields givenOrder = alignedOrder from rfl, hrules,
    Obj.rewriteAll, hheading, Outcome.ok_bind, Obj.rewriteAll, hitems]
  rfl

theorem view_givenItems : view (.obj itemsConfig) givenItems (.ofInt 2) =
    .ok ⟨headOf itemsConfig (.ofInt 2) 1, shownItems⟩ := by
  refine view_eq_ok_iff.mpr ⟨itemsConfig, shownItems, configOf_itemsConfig, ?_, rfl⟩
  have hsubfields : (ofConfig itemsConfig).subfields = [(usualField "text" .text 0 []).toSubfield,
      (usualField "more" .repeater 1 (usualConfig defaultMaxDepth [] [])).toSubfield] := rfl
  rw [show rowsOf givenItems = [[("text", .int 5), ("more", .list [])]] from rfl, viewRows,
    viewRows]
  simp only [hsubfields, viewCells, viewCell]
  rfl

theorem viewRows_givenOrder :
    viewRows (ofConfig ordersConfig) (.ofInt 1) 0 (rowsOf (.list [.obj givenOrder])) =
      .ok [.row 0 "Row 1" [.plain "heading" (.str "text") (.str "h"),
        .nested "line_items" givenItems (headOf itemsConfig (.ofInt 2) 1) shownItems]] := by
  have hsubfields : (ofConfig ordersConfig).subfields =
      [(usualField "heading" .text 0 []).toSubfield, itemsSubfield] := rfl
  have hitems : view (itemsSubfield.config.orElse (.obj []))
      (Obj.get alignedOrder itemsSubfield.key) (Depth.ofInt 1).next =
      .ok ⟨headOf itemsConfig (.ofInt 2) 1, shownItems⟩ := view_givenItems
  rw [show rowsOf (.list [.obj givenOrder]) = [givenOrder] from rfl, viewRows, viewRows]
  simp only [show alignRow (ofConfig ordersConfig).subfields givenOrder = alignedOrder from rfl]
  simp only [hsubfields, viewCells, viewCell, hitems]
  rfl

/-- The items of an order are shown and stored one level deeper, without what is too deep. -/
theorem order_shown_as_stored : ∃ views stored,
    viewRows (ofConfig ordersConfig) (.ofInt 1) 0 (rowsOf (.list [.obj givenOrder])) = .ok views ∧
      prune (ofConfig ordersConfig) 1 (.list [.obj givenOrder]) = .ok (.list stored) ∧
      RowsAgree (ofConfig ordersConfig) 1 [.obj givenOrder] views stored := by
  obtain ⟨stored, hlist, -, -, hagree⟩ := shown_rows_are_stored repeaterConfigOf_ordersConfig
    viewRows_givenOrder prune_givenOrder
  exact ⟨_, stored, viewRows_givenOrder, by rw [prune_givenOrder, hlist], hagree⟩

end Repeater

end ContentEngine
