import ContentEngine.Proofs.Entry.Normal
import ContentEngine.Proofs.Repeater.View

/-!
# Values that are kept

A value that data holds under a declared key is stored under that key, and a value that a row holds
under the key of a subfield is still there in the row that is pruned or shown. The one exception is
a key that is the alias of another declared key: its value is taken for one that has been sent
under the alias. The other key must be free for this at the top level of an entry
(`get?_normalDataWith`), while in a row the value is lost in any case (`forall₂_of_prune`,
`forall₂_of_view`).
-/

namespace ContentEngine

/-! ### Rows -/

namespace Repeater

variable {r : Repeater} {row : Obj} {s : Subfield} {v : Value}

/-- What is left of a value in an aligned row. -/
theorem get?_alignRow (hr : r.IsStrict) (hv : Obj.get? row s.key = some v) :
    Obj.get? (alignRow r.subfields row) s.key = if HasRival r.keys s.key then none else some v := by
  rw [ContentEngine.get?_alignRow hr.isKey (Obj.has_of_get?_eq_some hv), hv]
  rfl

theorem exists_of_prunedCell {depth : Int} {left : Option Value}
    (hinert : r.isInert depth s = false) (h : prunedCell r depth s v = .ok left) :
    ∃ w, left = some w := by
  rw [prunedCell] at h
  split at h
  · exact ⟨v, (Except.ok.inj h).symm⟩
  · next hrepeater =>
    have hnest : ¬(!r.canNest depth) = true := by
      rw [isInert] at hinert
      simp_all
    rw [if_neg hnest] at h
    simp only [Outcome.bind_eq_ok_iff, Outcome.pure_eq_ok_iff] at h
    obtain ⟨config, -, w, -, rfl⟩ := h
    exact ⟨w, rfl⟩

/-- What is left of the values of rows that are pruned. -/
theorem forall₂_of_prune (hr : r.IsStrict) {depth : Int} {items : List Value} {w : Value}
    (h : prune r depth (.list items) = .ok w) :
    ∃ ws, w = .list ws ∧ List.Forall₂ (fun item left => ∀ given, item.asObj? = some given →
      ∃ out, left = .obj out ∧ ∀ s ∈ r.subfields, r.isInert depth s = false →
        ∀ v, Obj.get? given s.key = some v →
          if HasRival r.keys s.key then Obj.get? out s.key = none
          else ∃ u, prunedCell r depth s v = .ok (some u) ∧ Obj.get? out s.key = some u)
      items ws := by
  obtain ⟨ws, hws, hw⟩ := prune_list_eq_ok_iff.mp h
  refine ⟨ws, hw, (pruneItems_eq_ok_iff.mp hws).imp fun item left hitem given hgiven => ?_⟩
  obtain ⟨out, rfl, hout⟩ := exists_prunedRow_of_pruneItem hr hgiven hitem
  refine ⟨out, rfl, fun s hs hinert v hv => ?_⟩
  -- pruning sees the aligned row, so that what aligning has taken away is gone for good
  have haligned := get?_alignRow hr hv
  split
  · next hrival =>
    rw [if_pos hrival] at haligned
    exact hout.get?_eq_none haligned
  · next hrival =>
    rw [if_neg hrival] at haligned
    have hcell := hout.cell hs haligned
    obtain ⟨u, hu⟩ := exists_of_prunedCell hinert hcell
    rw [hu] at hcell
    exact ⟨u, hcell, hu⟩

/-- What is shown of the values of rows. -/
theorem forall₂_of_view {source value : Value} {depth : Depth} {view : RepeaterView}
    (h : Repeater.view source value depth = .ok view) :
    ∃ config, configOf source = .ok config ∧
      List.Forall₂ (fun given shownRow => ∃ index label cells shown,
        shownRow = .row index label cells ∧
        (ofConfig config).visibility (alignRow (ofConfig config).subfields given) = .ok shown ∧
        List.Forall₂ (fun s cell => (ofConfig config).isInert depth.level s = false →
          ∀ v, Obj.get? given s.key = some v →
            cell.value? =
              if (shown.get? s.key).getD true = true then
                some (if HasRival (ofConfig config).keys s.key then .null else v)
              else none)
          (ofConfig config).subfields cells)
        (rowsOf value) view.rows := by
  simp only [Repeater.view, Outcome.bind_eq_ok_iff, Outcome.pure_eq_ok_iff] at h
  obtain ⟨config, hconfig, rows, hrows, rfl⟩ := h
  have hstrict := isStrict_of_configOf hconfig
  refine ⟨config, hconfig, (forall₂_of_viewRows hrows).imp ?_⟩
  rintro given shownRow ⟨index, label, cells, shown, rfl, hshown, hcells⟩
  refine ⟨index, label, cells, shown, rfl, hshown, (forall₂_of_viewCells hcells).imp ?_⟩
  intro s cell hcell hinert v hv
  -- a missing value is shown as null
  rw [value?_of_viewCell hinert hcell, Obj.get, get?_alignRow hstrict hv]
  split
  · split <;> rfl
  · rfl

end Repeater

/-! ### Entries -/

namespace Entry

variable {mail : Format.MailReader} {fields : Value} {data out : Obj}
variable {declared : List (String × Obj)}

/-- What is stored for a value that data holds under a declared key. -/
theorem get?_normalDataWith (hfields : keyedFields fields = .ok declared)
    (hnodup : (declared.map (·.1)).Nodup)
    (h : normalDataWith mail fields (.obj data) = .ok out) {entry : String × Obj}
    (hentry : entry ∈ declared) {v : Value} (hv : Obj.get? data entry.1 = some v) :
    if HasFreeRival (declared.map (·.1)) data entry.1 then Obj.get? out entry.1 = none
    else ∃ w, storedValue mail entry.2 v = .ok w ∧ Obj.get? out entry.1 = some w := by
  have hstored : StoredData mail declared ((declared.map (·.1)).foldl moveAlias data) out :=
    storedData_of_normalDataWith hfields hnodup h
  -- storing rewrites what the aliases have left under the key
  have hmoved := get?_foldl_moveAlias (isKey_of_mem_keyedFields hfields) hnodup
    (Obj.has_of_get?_eq_some hv)
  split
  · next hrival =>
    rw [if_pos hrival] at hmoved
    exact hstored.get?_eq_none hmoved
  · next hrival =>
    rw [if_neg hrival, hv] at hmoved
    exact hstored.value hentry hmoved

end Entry

/-- What an entry holds under a declared key is what is stored for it under the key, and what a row
holds under the key of a subfield is what the row that is aligned, pruned or shown holds under it;
but nothing is left under a key that is the alias of another declared key, which at the top level
must be free for that. -/
theorem values_kept_unless_rival (mail : Format.MailReader) :
    (∀ (fields : Value) (declared : List (String × Obj)) (data out : Obj),
      Entry.keyedFields fields = .ok declared → (declared.map (·.1)).Nodup →
      Entry.normalDataWith mail fields (.obj data) = .ok out →
      ∀ entry ∈ declared, ∀ v, Obj.get? data entry.1 = some v →
        if Entry.HasFreeRival (declared.map (·.1)) data entry.1 then
          Obj.get? out entry.1 = none
        else
          ∃ w, Entry.storedValue mail entry.2 v = .ok w ∧ Obj.get? out entry.1 = some w) ∧
    (∀ (source : Value) (config : Obj), Repeater.configOf source = .ok config →
      let r := Repeater.ofConfig config
      (∀ row, ∀ s ∈ r.subfields, ∀ v, Obj.get? row s.key = some v →
        Obj.get? (alignRow r.subfields row) s.key =
          if HasRival r.keys s.key then none else some v) ∧
      (∀ depth items w, r.prune depth (.list items) = .ok w →
        ∃ ws, w = .list ws ∧ List.Forall₂ (fun item left => ∀ row, item.asObj? = some row →
          ∃ out, left = .obj out ∧ ∀ s ∈ r.subfields, r.isInert depth s = false →
            ∀ v, Obj.get? row s.key = some v →
              if HasRival r.keys s.key then Obj.get? out s.key = none
              else ∃ u, r.prunedCell depth s v = .ok (some u) ∧ Obj.get? out s.key = some u)
          items ws) ∧
      (∀ value depth view, Repeater.view source value depth = .ok view →
        List.Forall₂ (fun row shownRow => ∃ index label cells shown,
          shownRow = .row index label cells ∧
          r.visibility (alignRow r.subfields row) = .ok shown ∧
          List.Forall₂ (fun s cell => r.isInert depth.level s = false →
            ∀ v, Obj.get? row s.key = some v →
              cell.value? =
                if (shown.get? s.key).getD true = true then
                  some (if HasRival r.keys s.key then .null else v)
                else none)
            r.subfields cells)
          (rowsOf value) view.rows)) := by
  refine ⟨fun fields declared data out hfields hnodup h entry hentry v hv =>
    Entry.get?_normalDataWith hfields hnodup h hentry hv, fun source config hconfig => ?_⟩
  have hstrict := Repeater.isStrict_of_configOf hconfig
  refine ⟨fun row s _ v hv => Repeater.get?_alignRow hstrict hv,
    fun depth items w h => Repeater.forall₂_of_prune hstrict h, fun value depth view h => ?_⟩
  obtain ⟨config', hconfig', hrows⟩ := Repeater.forall₂_of_view h
  -- the view has read the same configuration
  obtain rfl : config = config' := Except.ok.inj (hconfig.symm.trans hconfig')
  exact hrows

/-! ### Two keys of which one is the alias of the other -/

/-- The declarations of two fields whose keys differ by an underscore in front of a digit. -/
def itemFields : List Value :=
  [.obj [("key", .str "item_2"), ("type", .str "text")],
    .obj [("key", .str "item2"), ("type", .str "text")]]

/-- The strict form of such a field. -/
def itemField (key : String) (index : Int) : FieldDef where
  id := .null
  key := key
  label := key
  kind := .text
  required := false
  helpText := ""
  orderIndex := index
  config := []

/-- The strict configuration of a repeater with these fields. -/
def itemConfig : Obj :=
  [("subfields", .list [(itemField "item_2" 0).toValue, (itemField "item2" 1).toValue]),
    ("minRows", .null), ("maxRows", .null), ("addLabel", .str "Add row"),
    ("layout", .str "cards"), ("maxDepth", .int 2), ("rowLabelTemplate", .str ""),
    ("rules", .list [])]

theorem subfieldsOf_itemFields :
    FieldDef.subfieldsOf itemFields 0 [] = .ok [itemField "item_2" 0, itemField "item2" 1] := by
  have hfirst : FieldDef.ofValue? (.obj [("key", .str "item_2"), ("type", .str "text")])
      (0 : Nat) = .ok (some (itemField "item_2" 0)) := by
    rw [FieldDef.ofValue?]
    rfl
  have hsecond : FieldDef.ofValue? (.obj [("key", .str "item2"), ("type", .str "text")])
      (0 + 1 : Nat) = .ok (some (itemField "item2" 1)) := by
    rw [FieldDef.ofValue?]
    rfl
  rw [itemFields, FieldDef.subfieldsOf_cons_of_some hfirst (by decide),
    FieldDef.subfieldsOf_cons_of_some hsecond (by decide), FieldDef.subfieldsOf]
  rfl

theorem configOf_itemFields :
    Repeater.configOf (.obj [("subfields", .list itemFields)]) = .ok itemConfig := by
  have hlist : Obj.getList (Value.obj [("subfields", .list itemFields)]).members "subfields" =
      itemFields := rfl
  rw [Repeater.configOf, if_neg (by decide), FieldDef.repeaterConfigOf, hlist,
    subfieldsOf_itemFields]
  rfl

theorem prune_item :
    (Repeater.ofConfig itemConfig).prune 1 (.list [.obj [("item_2", .int 6)]]) =
      .ok (.list [.obj [("item_2", .int 6)]]) := by
  have hplain : ∀ s ∈ (Repeater.ofConfig itemConfig).subfields, s.isRepeater = false := by
    rintro s (_ | ⟨_, _ | ⟨_, _ | _⟩⟩) <;> rfl
  have hstrict := Repeater.isStrict_of_configOf configOf_itemFields
  rw [Repeater.prune_list, Repeater.pruneItems, Repeater.pruneItem_of_plain hstrict hplain rfl,
    Repeater.pruneItems]
  rfl

theorem view_item :
    Repeater.view (.obj [("subfields", .list itemFields)]) (.list [.obj [("item_2", .int 6)]])
        (.ofInt 1) =
      .ok ⟨Repeater.headOf itemConfig (.ofInt 1) 1,
        [.row 0 "Row 1" [.plain "item_2" (.str "text") (.int 6),
          .plain "item2" (.str "text") .null]]⟩ := by
  have hshown : (Repeater.ofConfig itemConfig).visibility [("item_2", .int 6)] =
      .ok [("item_2", true), ("item2", true)] := rfl
  have haligned : alignRow (Repeater.ofConfig itemConfig).subfields [("item_2", .int 6)] =
      [("item_2", .int 6)] := rfl
  have hcells : (Repeater.ofConfig itemConfig).viewCells (.ofInt 1) [("item_2", .int 6)]
      [("item_2", true), ("item2", true)] (Repeater.ofConfig itemConfig).subfields =
      .ok [.plain "item_2" (.str "text") (.int 6), .plain "item2" (.str "text") .null] := by
    rw [show (Repeater.ofConfig itemConfig).subfields =
      [(itemField "item_2" 0).toSubfield, (itemField "item2" 1).toSubfield] from rfl]
    simp only [Repeater.viewCells, Repeater.viewCell]
    rfl
  rw [Repeater.view, configOf_itemFields, Outcome.ok_bind,
    show rowsOf (.list [.obj [("item_2", .int 6)]]) = [[("item_2", .int 6)]] from rfl,
    Repeater.viewRows, Repeater.viewRows]
  simp only [haligned, hshown, hcells, Outcome.ok_bind]
  rfl

/-- The value under a key that has an alias is kept. -/
theorem item_kept :
    (∃ w, Entry.storedValue Format.readEmail? [("key", .str "item_2"), ("type", .str "text")]
        (.int 6) = .ok w ∧ Obj.get? [("item_2", .int 6)] "item_2" = some w) ∧
      Obj.get? (alignRow (Repeater.ofConfig itemConfig).subfields [("item_2", .int 6)]) "item_2" =
        some (.int 6) ∧
      (∃ w, (Repeater.ofConfig itemConfig).prunedCell 1 (itemField "item_2" 0).toSubfield (.int 6) =
        .ok (some w) ∧ Obj.get? [("item_2", .int 6)] "item_2" = some w) ∧
      (CellView.plain "item_2" (.str "text") (.int 6)).value? = some (.int 6) := by
  obtain ⟨hentries, hrows⟩ := values_kept_unless_rival Format.readEmail?
  obtain ⟨halign, hprune, hview⟩ := hrows _ itemConfig configOf_itemFields
  refine ⟨?_, ?_, ?_, ?_⟩
  · exact hentries (.list itemFields) _ [("item_2", .int 6)] _ rfl (by decide) rfl _
      List.mem_cons_self (.int 6) rfl
  · exact halign [("item_2", .int 6)] _ List.mem_cons_self (.int 6) rfl
  · obtain ⟨ws, hws, hitems⟩ := hprune 1 _ _ prune_item
    obtain rfl := Value.list.inj hws
    obtain ⟨hitem, -⟩ := List.forall₂_cons.mp hitems
    obtain ⟨out, hout, hcells⟩ := hitem _ rfl
    obtain rfl := Value.obj.inj hout
    exact hcells _ List.mem_cons_self rfl (.int 6) rfl
  · obtain ⟨hrow, -⟩ := List.forall₂_cons.mp (hview _ _ _ view_item)
    obtain ⟨index, label, cells, shown, hrow, hshown, hcells⟩ := hrow
    obtain ⟨-, -, rfl⟩ := RowView.row.inj hrow
    obtain rfl := Except.ok.inj hshown
    obtain ⟨hcell, -⟩ := List.forall₂_cons.mp hcells
    exact hcell rfl (.int 6) rfl

/-- Under a key that is the alias of another one nothing is left. -/
theorem item_lost :
    Entry.normalData (.list itemFields) (.obj [("item2", .int 5)]) = .ok [("item_2", .int 5)] ∧
      Obj.get? [("item_2", .int 5)] "item2" = none ∧
      Obj.get? (alignRow (Repeater.ofConfig itemConfig).subfields
        [("item2", .int 5), ("item_2", .int 6)]) "item2" = none :=
  ⟨rfl, rfl, rfl⟩

end ContentEngine
