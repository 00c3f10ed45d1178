import ContentEngine.Proofs.Repeater.Stored

/-!
# What pruning takes out

`IsPruned` says item by item what is left of a list of rows, and `RowIsPruned` key by key what is
left of a row: nothing under a repeater that is nested too deep, the rows of the other nested
repeaters pruned in turn, one level deeper and under their own configurations, and everything else
as it was given, whether a rule hides it or not. What was given under an alias stands under its key.
So pruning takes out what is inert and nothing else (`prune_takes_out_inert`), but for the value
under a key that is itself the alias of another subfield: nothing is left under an alias.
-/

namespace ContentEngine

variable {subfields : List Subfield} {row : Obj} {k : String}

/-! ### What a row gives -/

theorem isSome_aliasOwner?_iff : (aliasOwner? subfields k).isSome = true ↔
    ∃ s ∈ subfields, hasAlias s.key = true ∧ camelCase s.key = k := by
  simp only [aliasOwner?, List.find?_isSome, List.mem_map, Bool.and_eq_true, beq_iff_eq]
  constructor
  · rintro ⟨_, ⟨s, hs, rfl⟩, hfound⟩
    exact ⟨s, hs, hfound⟩
  · rintro ⟨s, hs, hfound⟩
    exact ⟨s.key, ⟨s, hs, rfl⟩, hfound⟩

/-- The value that a row gives to a key: the one under the key, or else the one under its alias if
the key is the first that has this alias. -/
def givenValue? (subfields : List Subfield) (row : Obj) (key : String) : Option Value :=
  (Obj.get? row key).or
    (if aliasOwner? subfields (camelCase key) = some key then Obj.get? row (camelCase key)
      else none)

/-- Under a text that is not the alias of a subfield an aligned row holds what the row gives. -/
theorem get?_alignRow_of_not_alias (hkeys : ∀ s ∈ subfields, IsKey s.key)
    (hk : ∀ s ∈ subfields, hasAlias s.key = true → camelCase s.key ≠ k) :
    Obj.get? (alignRow subfields row) k = givenValue? subfields row k := by
  have hnone : ¬(aliasOwner? subfields k).isSome = true := by
    rw [isSome_aliasOwner?_iff]
    rintro ⟨s, hs, halias, heq⟩
    exact hk s hs halias heq
  rw [get?_alignRow_eq hkeys, if_neg hnone, givenValue?]
  split
  · rfl
  · rw [Option.or_none]

/-- A text that is no key gives what stands under it. -/
theorem givenValue?_of_not_key (hk : ∀ s ∈ subfields, s.key ≠ k) :
    givenValue? subfields row k = Obj.get? row k := by
  have hnot : aliasOwner? subfields (camelCase k) ≠ some k := by
    intro howner
    obtain ⟨s, hs, heq⟩ := List.mem_map.mp (List.mem_of_find?_eq_some howner)
    exact hk s hs heq
  rw [givenValue?, if_neg hnot, Option.or_none]

namespace Repeater

/-! ### What is left -/

mutual

/-- Whether a list is what is left of the items of a repeater's value at a depth, item by item. -/
inductive IsPruned : Repeater → Int → List Value → List Value → Prop
  | nil {r depth} : IsPruned r depth [] []
  /-- An item that is no row stays as it is. -/
  | other {r depth item items left} : item.asObj? = none → IsPruned r depth items left →
      IsPruned r depth (item :: items) (item :: left)
  | row {r depth item given items out left} : item.asObj? = some given →
      RowIsPruned r depth given out → IsPruned r depth items left →
      IsPruned r depth (item :: items) (.obj out :: left)

/-- Whether a row is what is left of a row that was given. -/
inductive RowIsPruned : Repeater → Int → Obj → Obj → Prop
  | keys {r depth given out} :
      -- Nothing is left under the key of a repeater that is nested too deep,
      (∀ s ∈ r.subfields, r.isInert depth s = true → Obj.get? out s.key = none) →
      -- and nothing under the alias of a subfield.
      (∀ s ∈ r.subfields, hasAlias s.key = true → Obj.get? out (camelCase s.key) = none) →
      -- Under the key of any other subfield what was given is kept,
      (∀ s ∈ r.subfields, r.isInert depth s = false → ¬HasRival r.keys s.key →
        CellIsPruned r depth s (givenValue? r.subfields given s.key) (Obj.get? out s.key)) →
      -- and what stands under any other text stays as it is.
      (∀ k, (∀ s ∈ r.subfields, s.key ≠ k ∧ camelCase s.key ≠ k) →
        Obj.get? out k = Obj.get? given k) →
      RowIsPruned r depth given out

/-- Whether a value, if any, is what is left of the value of a row under a subfield. -/
inductive CellIsPruned : Repeater → Int → Subfield → Option Value → Option Value → Prop
  | missing {r depth s} : CellIsPruned r depth s none none
  | plain {r depth s v} : s.isRepeater = false → CellIsPruned r depth s (some v) (some v)
  /-- What is no list has no rows and stays as it is. -/
  | noRows {r depth s v} : s.isRepeater = true → v.asList? = none →
      CellIsPruned r depth s (some v) (some v)
  /-- The rows of a nested repeater are pruned one level deeper and under the strict configuration
  of the subfield. -/
  | rows {r depth s config items left} : s.isRepeater = true →
      configOf (s.config.orElse (.obj [])) = .ok config →
      IsPruned (ofConfig config) (depth + 1) items left →
      CellIsPruned r depth s (some (.list items)) (some (.list left))

end

variable {r : Repeater} {depth : Int} {s : Subfield} {given out : Obj}

theorem IsPruned.length_eq {items left : List Value} (h : IsPruned r depth items left) :
    left.length = items.length := by
  induction items generalizing left with
  | nil =>
    cases h
    rfl
  | cons item rest ih =>
    cases h with
    | other _ hrest | row _ _ hrest => exact congrArg (· + 1) (ih hrest)

/-! ### One cell and one row -/

/-- What is left of a cell, if the rows of a nested repeater are pruned. -/
theorem cellIsPruned_of_prunedCell {v : Value} {left : Option Value}
    (hinert : r.isInert depth s = false) (h : prunedCell r depth s v = .ok left)
    (hnested : ∀ config items stored, v = .list items → (ofConfig config).IsStrict →
      pruneItems (ofConfig config) (depth + 1) items = .ok stored →
      IsPruned (ofConfig config) (depth + 1) items stored) :
    CellIsPruned r depth s (some v) left := by
  cases hrepeater : s.isRepeater with
  | false =>
    rw [prunedCell_of_plain hrepeater, Except.ok.injEq] at h
    rw [← h]
    exact .plain hrepeater
  | true =>
    rw [prunedCell_of_nested hinert hrepeater] at h
    simp only [Outcome.bind_eq_ok_iff, Outcome.pure_eq_ok_iff] at h
    obtain ⟨config, hconfig, w, hw, rfl⟩ := h
    cases hitems : v.asList? with
    | none =>
      rw [prune_of_asList? hitems, Except.ok.injEq] at hw
      rw [← hw]
      exact .noRows hrepeater hitems
    | some items =>
      obtain rfl := Value.eq_list_of_asList? hitems
      obtain ⟨stored, hstored, rfl⟩ := prune_list_eq_ok_iff.mp hw
      exact .rows hrepeater hconfig
        (hnested config items stored rfl (isStrict_of_configOf hconfig) hstored)

/-- What is left of an aligned row is what is left of the row. -/
theorem rowIsPruned_of_prunedRow (hr : r.IsStrict)
    (hout : PrunedRow r depth (alignRow r.subfields given) out)
    (hnested : ∀ (s : Subfield) v config items stored,
      Obj.get? (alignRow r.subfields given) s.key = some v → v = .list items →
      (ofConfig config).IsStrict → pruneItems (ofConfig config) (depth + 1) items = .ok stored →
      IsPruned (ofConfig config) (depth + 1) items stored) :
    RowIsPruned r depth given out := by
  refine .keys (fun s hs hinert => ?_) (fun s hs halias => ?_) (fun s hs hinert hrival => ?_)
    fun k hk => ?_
  · have hlevel : PrunedRow r (Depth.ofInt depth).level (alignRow r.subfields given) out := hout
    exact hlevel.get?_of_isInert hs hinert
  · exact hout.get?_eq_none (get?_alignRow_camelCase hr.isKey given hs halias)
  · have haligned : Obj.get? (alignRow r.subfields given) s.key =
        givenValue? r.subfields given s.key :=
      get?_alignRow_of_not_alias hr.isKey fun t ht halias heq =>
        hrival ⟨t.key, List.mem_map_of_mem ht,
          fun hsame => hasAlias_iff.mp halias (hsame ▸ heq), heq⟩
    rw [← haligned]
    cases hv : Obj.get? (alignRow r.subfields given) s.key with
    | none =>
      rw [hout.get?_eq_none hv]
      exact .missing
    | some v =>
      exact cellIsPruned_of_prunedCell hinert (hout.cell hs hv) fun config items stored =>
        hnested s v config items stored hv
  · have hkeys : k ∉ (cellRules r depth r.subfields).map (·.1) := by
      rw [cellRules, List.map_map]
      intro hmem
      obtain ⟨s, hs, heq⟩ := List.mem_map.mp hmem
      exact (hk s hs).1 heq
    rw [hout.other k hkeys, get?_alignRow_of_not_alias hr.isKey fun s hs _ => (hk s hs).2,
      givenValue?_of_not_key fun s hs => (hk s hs).1]

/-! ### All rows -/

theorem isPruned_of_pruneItems (hr : r.IsStrict) {items left : List Value}
    (h : pruneItems r depth items = .ok left) : IsPruned r depth items left := by
  -- the items of nested repeaters weigh less, and so does the rest of the items
  induction hn : Value.itemsWeight items using Nat.strong_induction_on
    generalizing r depth items left with
  | _ n ih =>
    cases items with
    | nil =>
      rw [pruneItems, Except.ok.injEq] at h
      rw [← h]
      exact .nil
    | cons item rest =>
      rw [Value.itemsWeight] at hn
      simp only [pruneItems, Outcome.bind_eq_ok_iff, Outcome.pure_eq_ok_iff] at h
      obtain ⟨w, hw, others, hothers, rfl⟩ := h
      have hrest := ih _ (by omega) hr hothers rfl
      cases hitem : item.asObj? with
      | none =>
        rw [pruneItem_of_none hitem, Except.ok.injEq] at hw
        rw [← hw]
        exact .other hitem hrest
      | some given =>
        obtain ⟨out, rfl, hout⟩ := exists_prunedRow_of_pruneItem hr hitem hw
        refine .row hitem (rowIsPruned_of_prunedRow hr hout ?_) hrest
        rintro s v config nested stored hv rfl hstrict hstored
        have hlt := Value.weight_lt_of_alignRow hitem hv
        rw [Value.weight] at hlt
        exact ih _ (by omega) hstrict hstored rfl

/-- Under a strict configuration pruning leaves one item for each item of a list. What is no row
stays as it is. In a row, nothing is left under the repeaters that are nested too deep, to any
depth; what was given under the key of any other subfield is kept, hidden or not, with nested rows
pruned in turn, unless the key is the alias of another subfield; and what is neither under a key
nor under an alias stays as it is. -/
theorem prune_takes_out_inert {source config : Obj} {items : List Value} {w : Value}
    (hconfig : FieldDef.repeaterConfigOf source = .ok config)
    (hprune : prune (ofConfig config) depth (.list items) = .ok w) :
    ∃ left, w = .list left ∧ left.length = items.length ∧
      IsPruned (ofConfig config) depth items left := by
  obtain ⟨left, hleft, rfl⟩ := prune_list_eq_ok_iff.mp hprune
  have hpruned := isPruned_of_pruneItems (isStrict_of_repeaterConfigOf hconfig) hleft
  exact ⟨left, rfl, hpruned.length_eq, hpruned⟩

/-- An order keeps its heading and its items, which lose what is too deep. -/
theorem order_pruned : ∃ left,
    prune (ofConfig ordersConfig) 1 (.list [.obj givenOrder]) = .ok (.list left) ∧
      IsPruned (ofConfig ordersConfig) 1 [.obj givenOrder] left := by
  obtain ⟨left, hleft, -, hpruned⟩ :=
    prune_takes_out_inert repeaterConfigOf_ordersConfig prune_givenOrder
  exact ⟨left, by rw [prune_givenOrder, hleft], hpruned⟩

/-! ### A hidden value that is lost -/

/-- Two items, of which the second one is hidden as soon as there is a first one. The key of the
second is the alias of the first. -/
def hidingConfig : Obj :=
  usualConfig defaultMaxDepth [⟨"item_2", "truthy", .null, .hide, ["item2"]⟩]
    [usualField "item_2" .text 0 [], usualField "item2" .text 1 []]

/-- A row with both items. -/
def bothItems : Obj := [("item2", .int 5), ("item_2", .int 6)]

theorem repeaterConfigOf_hidingConfig :
    FieldDef.repeaterConfigOf hidingConfig = .ok hidingConfig := by
  cbv

theorem isRepeater_hidingConfig :
    ∀ s ∈ (ofConfig hidingConfig).subfields, s.isRepeater = false := by
  rintro s (_ | ⟨_, _ | ⟨_, _ | _⟩⟩) <;> rfl

theorem prune_bothItems : prune (ofConfig hidingConfig) 1 (.list [.obj bothItems]) =
    .ok (.list [.obj [("item_2", .int 6)]]) := by
  have hstrict := isStrict_of_repeaterConfigOf repeaterConfigOf_hidingConfig
  rw [prune_list, pruneItems, pruneItem_of_plain hstrict isRepeater_hidingConfig rfl, pruneItems]
  rfl

/-- A hidden value under a subfield that is no repeater may be lost. -/
theorem hidden_item_lost :
    FieldDef.repeaterConfigOf hidingConfig = .ok hidingConfig ∧
      (∀ s ∈ (ofConfig hidingConfig).subfields, s.isRepeater = false) ∧
      (ofConfig hidingConfig).visibility (alignRow (ofConfig hidingConfig).subfields bothItems) =
        .ok [("item_2", true), ("item2", false)] ∧
      Obj.get? bothItems "item2" = some (.int 5) ∧
      prune (ofConfig hidingConfig) 1 (.list [.obj bothItems]) =
        .ok (.list [.obj [("item_2", .int 6)]]) := by
  exact ⟨repeaterConfigOf_hidingConfig, isRepeater_hidingConfig, rfl, rfl, prune_bothItems⟩

end Repeater

end ContentEngine
