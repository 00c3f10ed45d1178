import ContentEngine.Proofs.Repeater.Pruned
import ContentEngine.Proofs.Repeater.Session

/-!
# A row that is rewritten

A patch is written into a row as it stands, and only then is the row aligned. So a value that the
patch gives under the key of a subfield is the one that is left by pruning, while one that it gives
under the alias of the key is left only if the row has held nothing under the key: a value under the
key wins (`IsPatched`). The other cells and the other rows are what pruning would have left of them
without the patch, and if they can be pruned at all does not depend on it (`update_prune_iff`).
-/

namespace ContentEngine

open Outcome (HasResult)

variable {subfields : List Subfield} {row patch : Obj} {s : Subfield} {k : String} {v : Value}

/-! ### What a text names -/

/-- Whether a text names a subfield: it is the key, or the alias of the key. -/
def Subfield.IsNamed (s : Subfield) (k : String) : Prop :=
  k = s.key ∨ k = camelCase s.key

/-- Whether a subfield shares none of its names with another one. -/
def Subfield.IsApart (subfields : List Subfield) (s : Subfield) : Prop :=
  ∀ t ∈ subfields, ∀ k, s.IsNamed k → t.IsNamed k → t = s

/-- A subfield that shares no names takes what is under its key, or else what is under the alias. -/
theorem Subfield.IsApart.get?_alignRow (h : s.IsApart subfields)
    (hkeys : ∀ t ∈ subfields, IsKey t.key) (hs : s ∈ subfields) (row : Obj) :
    Obj.get? (alignRow subfields row) s.key =
      (Obj.get? row s.key).or (Obj.get? row (camelCase s.key)) := by
  have hgiven : Obj.get? (alignRow subfields row) s.key = givenValue? subfields row s.key := by
    refine get?_alignRow_of_not_alias hkeys fun t ht halias heq => ?_
    obtain rfl := h t ht s.key (.inl rfl) (.inr heq.symm)
    exact hasAlias_iff.mp halias heq
  rw [hgiven, givenValue?]
  cases halias : hasAlias s.key with
  | false =>
    have hself : camelCase s.key = s.key := by simpa [hasAlias] using halias
    rw [hself, Option.or_self]
    split
    · exact Option.or_self
    · exact Option.or_none
  | true =>
    have howner : aliasOwner? subfields (camelCase s.key) = some s.key := by
      obtain ⟨key, hkey⟩ := Option.isSome_iff_exists.mp
        (isSome_aliasOwner?_iff.mpr ⟨s, hs, halias, rfl⟩)
      obtain ⟨t, ht, rfl⟩ := List.mem_map.mp (List.mem_of_find?_eq_some hkey)
      obtain ⟨-, heq⟩ := isKey_of_aliasOwner? hkeys hkey
      rw [hkey, h t ht _ (.inr rfl) (.inr heq.symm)]
    rw [if_pos howner]

/-- What a patch does not give, neither under a text nor under its alias, is not changed by it. -/
theorem get?_alignRow_merge (hkeys : ∀ t ∈ subfields, IsKey t.key) (hnodup : (Obj.keys patch).Nodup)
    (hk : Obj.get? patch k = none) (halias : Obj.get? patch (camelCase k) = none) (row : Obj) :
    Obj.get? (alignRow subfields (Obj.merge row patch)) k =
      Obj.get? (alignRow subfields row) k := by
  refine get?_alignRow_congr hkeys fun source hsource => ?_
  have hnone : Obj.get? patch source = none := by
    rw [alignSources] at hsource
    split at hsource
    · contradiction
    · split at hsource
      · rcases List.mem_pair.mp hsource with rfl | rfl
        · exact hk
        · exact halias
      · rw [List.mem_singleton.mp hsource, hk]
  rw [Obj.get?_merge row hnodup, hnone, Option.none_or]

namespace Repeater

variable {r : Repeater} {depth : Int} {rows : List Obj} {item : Value} {given out out' : Obj}

/-! ### Patches -/

/-- Whether a patch gives values to subfields of a repeater that are no repeaters themselves, to
each of them once, under names that they do not share. -/
structure IsPatch (r : Repeater) (patch : Obj) : Prop where
  nodup : (Obj.keys patch).Nodup
  named : ∀ k ∈ Obj.keys patch, ∃ s ∈ r.subfields, s.isRepeater = false ∧
    s.IsApart r.subfields ∧ s.IsNamed k
  once : ∀ s ∈ r.subfields, ∀ k ∈ Obj.keys patch, ∀ k' ∈ Obj.keys patch,
    s.IsNamed k → s.IsNamed k' → k = k'

/-- What a patch does to a row that is pruned. What it gives under the key of a subfield is left
there. What it gives under the alias of a key is left under the key, unless the row has held a value
under the key before: then that value is. The other cells are as without the patch. -/
structure IsPatched (r : Repeater) (patch row out out' : Obj) : Prop where
  ofKey : ∀ s ∈ r.subfields, ∀ v, Obj.get? patch s.key = some v → Obj.get? out' s.key = some v
  ofAlias : ∀ s ∈ r.subfields, ∀ v, hasAlias s.key = true →
    Obj.get? patch (camelCase s.key) = some v →
      Obj.get? out' s.key = some ((Obj.get? row s.key).getD v)
  other : ∀ s ∈ r.subfields, Obj.get? patch s.key = none →
    Obj.get? patch (camelCase s.key) = none → Obj.get? out' s.key = Obj.get? out s.key

theorem mem_keys_of_get? {o : Obj} (h : Obj.get? o k = some v) : k ∈ Obj.keys o :=
  Table.mem_keys_iff.mpr (Obj.has_of_get?_eq_some h)

namespace IsPatch

/-- A subfield that a patch names is no repeater and shares none of its names. -/
theorem of_isNamed (h : r.IsPatch patch) (hs : s ∈ r.subfields) (hname : s.IsNamed k)
    (hk : Obj.get? patch k = some v) : s.isRepeater = false ∧ s.IsApart r.subfields := by
  obtain ⟨t, -, hplain, hapart, hnamed⟩ := h.named k (mem_keys_of_get? hk)
  obtain rfl := hapart s hs k hnamed hname
  exact ⟨hplain, hapart⟩

/-- A patch names no repeater. -/
theorem get?_eq_none (h : r.IsPatch patch) (hs : s ∈ r.subfields) (hrepeater : s.isRepeater = true)
    (hname : s.IsNamed k) : Obj.get? patch k = none := by
  cases hv : Obj.get? patch k with
  | none => rfl
  | some v =>
    rw [(h.of_isNamed hs hname hv).1] at hrepeater
    contradiction

end IsPatch

/-! ### One row -/

theorem hasResult_pruneItem_iff (hr : r.IsStrict) (hitem : item.asObj? = some given) :
    HasResult (pruneItem r depth item) ↔
      ∀ s ∈ r.subfields, ∀ v, Obj.get? (alignRow r.subfields given) s.key = some v →
        HasResult (prunedCell r depth s v) := by
  constructor
  · rintro ⟨w, hw⟩ s hs v hv
    obtain ⟨out, -, hout⟩ := exists_prunedRow_of_pruneItem hr hitem hw
    exact ⟨_, hout.cell hs hv⟩
  · intro h
    obtain ⟨out, hout⟩ := Obj.exists_rewriteAll (hr.nodup_cellRules depth)
      (o := alignRow r.subfields given) fun rule hrule v hv => by
        obtain ⟨s, hs, rfl⟩ := List.mem_map.mp hrule
        exact h s hs v hv
    exact ⟨.obj out, by rw [pruneItem_eq_rewriteAll hr hitem, hout]; rfl⟩

/-- A row can be pruned exactly if it can be with a patch written into it: what may go wrong are
nested repeaters, which a patch does not change. -/
theorem hasResult_pruneItem_merge (hr : r.IsStrict) (hpatch : r.IsPatch patch) (row : Obj) :
    HasResult (pruneItem r depth (.obj (Obj.merge row patch))) ↔
      HasResult (pruneItem r depth (.obj row)) := by
  rw [hasResult_pruneItem_iff hr rfl, hasResult_pruneItem_iff hr rfl]
  refine forall₂_congr fun s hs => ?_
  cases hrepeater : s.isRepeater with
  | false =>
    have hplain (v : Value) : HasResult (prunedCell r depth s v) :=
      ⟨_, prunedCell_of_plain hrepeater v⟩
    exact iff_of_true (fun v _ => hplain v) fun v _ => hplain v
  | true =>
    rw [get?_alignRow_merge hr.isKey hpatch.nodup (hpatch.get?_eq_none hs hrepeater (.inl rfl))
      (hpatch.get?_eq_none hs hrepeater (.inr rfl))]

/-- Under the key of a subfield that is no repeater pruning leaves the value of the aligned row. -/
theorem get?_of_pruneItem (hr : r.IsStrict) (hs : s ∈ r.subfields) (hplain : s.isRepeater = false)
    (h : pruneItem r depth (.obj row) = .ok (.obj out)) :
    Obj.get? out s.key = Obj.get? (alignRow r.subfields row) s.key := by
  obtain ⟨left, heq, hleft⟩ := exists_prunedRow_of_pruneItem hr rfl h
  obtain rfl := Value.obj.inj heq
  have hlevel : PrunedRow r (Depth.ofInt depth).level (alignRow r.subfields row) out := hleft
  exact hlevel.get?_of_plain hs hplain

theorem isPatched_of_pruneItem (hr : r.IsStrict) (hpatch : r.IsPatch patch)
    (h : pruneItem r depth (.obj row) = .ok (.obj out))
    (h' : pruneItem r depth (.obj (Obj.merge row patch)) = .ok (.obj out')) :
    r.IsPatched patch row out out' := by
  have hvalue (s : Subfield) (hs : s ∈ r.subfields) (k : String) (hname : s.IsNamed k) (v : Value)
      (hv : Obj.get? patch k = some v) : Obj.get? out' s.key =
        ((Obj.get? patch s.key).or (Obj.get? row s.key)).or
          ((Obj.get? patch (camelCase s.key)).or (Obj.get? row (camelCase s.key))) := by
    obtain ⟨hplain, hapart⟩ := hpatch.of_isNamed hs hname hv
    rw [get?_of_pruneItem hr hs hplain h', hapart.get?_alignRow hr.isKey hs,
      Obj.get?_merge row hpatch.nodup, Obj.get?_merge row hpatch.nodup]
  constructor
  · intro s hs v hv
    rw [hvalue s hs s.key (.inl rfl) v hv, hv, Option.some_or, Option.some_or]
  · intro s hs v halias hv
    -- the patch does not give the key too, since it would name the subfield twice
    have hkey : Obj.get? patch s.key = none := by
      cases hkey : Obj.get? patch s.key with
      | none => rfl
      | some w =>
        exact absurd (hpatch.once s hs _ (mem_keys_of_get? hv) _ (mem_keys_of_get? hkey)
          (.inr rfl) (.inl rfl)) (hasAlias_iff.mp halias)
    rw [hvalue s hs _ (.inr rfl) v hv, hkey, hv, Option.none_or, Option.some_or]
    cases Obj.get? row s.key <;> rfl
  · intro s hs hkey halias
    obtain ⟨_, heq, hout⟩ := exists_prunedRow_of_pruneItem hr rfl h
    obtain rfl := Value.obj.inj heq
    obtain ⟨_, heq', hout'⟩ := exists_prunedRow_of_pruneItem hr rfl h'
    obtain rfl := Value.obj.inj heq'
    have hsame := get?_alignRow_merge hr.isKey hpatch.nodup hkey halias row
    cases hv : Obj.get? (alignRow r.subfields row) s.key with
    | none => rw [hout.get?_eq_none hv, hout'.get?_eq_none (hsame.trans hv)]
    | some v =>
      have hcell := hout.cell hs hv
      rw [hout'.cell hs (hsame.trans hv)] at hcell
      exact Except.ok.inj hcell

/-! ### All rows -/

/-- In a list that can be pruned, one item may be replaced by another one that can be, with no
effect on what is left of the others. -/
theorem pruneItems_replace {before after left : List Value}
    (h : pruneItems r depth (before ++ item :: after) = .ok left) :
    ∃ w, left[before.length]? = some w ∧ pruneItem r depth item = .ok w ∧
      ∀ item' w', pruneItem r depth item' = .ok w' →
        pruneItems r depth (before ++ item' :: after) = .ok (left.set before.length w') := by
  simp only [pruneItems_eq_ok_iff] at h ⊢
  induction before generalizing left with
  | nil =>
    obtain ⟨w, others, hw, hothers, rfl⟩ := List.forall₂_cons_left_iff.mp h
    exact ⟨w, rfl, hw, fun item' w' hw' => .cons hw' hothers⟩
  | cons first rest ih =>
    obtain ⟨v, others, hv, hothers, rfl⟩ := List.forall₂_cons_left_iff.mp h
    obtain ⟨w, hget, hw, hreplace⟩ := ih hothers
    exact ⟨w, hget, hw, fun item' w' hw' => .cons hv (hreplace item' w' hw')⟩

theorem hasResult_pruneItems_replace {before after : List Value} {item' : Value}
    (hitem : HasResult (pruneItem r depth item) → HasResult (pruneItem r depth item'))
    (h : HasResult (pruneItems r depth (before ++ item :: after))) :
    HasResult (pruneItems r depth (before ++ item' :: after)) := by
  obtain ⟨left, hleft⟩ := h
  obtain ⟨w, -, hw, hreplace⟩ := pruneItems_replace hleft
  obtain ⟨w', hw'⟩ := hitem ⟨w, hw⟩
  exact ⟨_, hreplace item' w' hw'⟩

/-- An update writes its patch into the row that it names. -/
theorem applyOp_update {op : Value} {i : Nat} (hop : Names op "update")
    (hindex : RowOp.indexOf op.members = i) (hgiven : Obj.get op.members "patch" = .obj patch)
    (hrow : rows[i]? = some row) :
    r.applyOp rows (.ofValue op) = rows.take i ++ Obj.merge row patch :: rows.drop (i + 1) := by
  obtain ⟨hi, rfl⟩ := List.getElem?_eq_some_iff.mp hrow
  have hmembers : ((Obj.get op.members "patch").orElse (.obj [])).asObj? = some patch := by
    rw [hgiven, Value.orElse]
    cases patch <;> rfl
  rw [(ofValue_of_names hop).2.2.2 rfl, applyOp, updateRow, hindex,
    position?_eq_some_iff.mpr ⟨rfl, hi⟩, hmembers]
  exact List.modify_eq_take_cons_drop hi

theorem hasResult_prune_list {items : List Value} :
    HasResult (prune r depth (.list items)) ↔ HasResult (pruneItems r depth items) := by
  rw [prune_list]
  exact Outcome.hasResult_map

/-- Whether rows can be pruned does not depend on whether a patch has been written into one of them.
If they can be, pruning leaves the same of all other rows, and of the row itself what `IsPatched`
says: the values of the patch under the keys of their subfields, unless one is given under an alias
and the row has held a value under the key. -/
theorem update_prune_iff {source : Value} {c : Obj} (hc : configOf source = .ok c) {op : Value}
    {i : Nat} (hop : Names op "update") (hindex : RowOp.indexOf op.members = i)
    (hgiven : Obj.get op.members "patch" = .obj patch) (hrow : rows[i]? = some row)
    (hpatch : (ofConfig c).IsPatch patch) (depth : Int) :
    (HasResult (prune (ofConfig c) depth
        (.list (((ofConfig c).applyOp rows (.ofValue op)).map .obj))) ↔
      HasResult (prune (ofConfig c) depth (.list (rows.map .obj)))) ∧
    ∀ left, prune (ofConfig c) depth (.list (rows.map .obj)) = .ok (.list left) →
      ∃ out out', left[i]? = some (.obj out) ∧
        prune (ofConfig c) depth (.list (((ofConfig c).applyOp rows (.ofValue op)).map .obj)) =
          .ok (.list (left.set i (.obj out'))) ∧
        (ofConfig c).IsPatched patch row out out' := by
  have hr := isStrict_of_configOf hc
  have hresult : HasResult (pruneItem (ofConfig c) depth (.obj (Obj.merge row patch))) ↔
      HasResult (pruneItem (ofConfig c) depth (.obj row)) :=
    hasResult_pruneItem_merge hr hpatch row
  obtain ⟨hi, hget⟩ := List.getElem?_eq_some_iff.mp hrow
  have hlength : ((rows.take i).map Value.obj).length = i := by
    rw [List.length_map, List.length_take, Nat.min_eq_left hi.le]
  have hsplit : rows.map Value.obj =
      (rows.take i).map .obj ++ .obj row :: (rows.drop (i + 1)).map .obj := by
    rw [← List.map_cons, ← hget, List.getElem_cons_drop, ← List.map_append, List.take_append_drop]
  rw [applyOp_update hop hindex hgiven hrow, List.map_append, List.map_cons, hsplit,
    hasResult_prune_list, hasResult_prune_list]
  refine ⟨⟨hasResult_pruneItems_replace hresult.mp, hasResult_pruneItems_replace hresult.mpr⟩,
    fun left hleft => ?_⟩
  obtain ⟨_, hleft, heq⟩ := prune_list_eq_ok_iff.mp hleft
  obtain rfl := Value.list.inj heq
  obtain ⟨w, hkept, hw, hreplace⟩ := pruneItems_replace hleft
  obtain ⟨w', hw'⟩ := hresult.mpr ⟨w, hw⟩
  obtain ⟨out, rfl, -⟩ := exists_prunedRow_of_pruneItem hr rfl hw
  obtain ⟨out', rfl, -⟩ := exists_prunedRow_of_pruneItem hr rfl hw'
  rw [hlength] at hkept hreplace
  exact ⟨out, out', hkept, prune_list_eq_ok_iff.mpr ⟨_, hreplace _ _ hw', rfl⟩,
    isPatched_of_pruneItem hr hpatch hw hw'⟩

/-! ### A name that is given twice -/

/-- Rows with a name, under a key that has an alias. -/
def namesConfig : Obj :=
  usualConfig defaultMaxDepth [] [usualField "first_name" .text 0 []]

/-- An update of one row that gives a name under the alias. -/
def renameOp (index : Int) : Value :=
  .obj [("op", .str "update"), ("index", .int index), ("patch", .obj [("firstName", .str "B")])]

theorem configOf_namesConfig : configOf (.obj namesConfig) = .ok namesConfig := by
  cbv

theorem isRepeater_namesConfig :
    ∀ s ∈ (ofConfig namesConfig).subfields, s.isRepeater = false := by
  rintro s (_ | ⟨_, _ | _⟩)
  rfl

theorem isPatch_rename : (ofConfig namesConfig).IsPatch [("firstName", .str "B")] := by
  have hsubfields : (ofConfig namesConfig).subfields =
      [(usualField "first_name" .text 0 []).toSubfield] := rfl
  refine ⟨List.nodup_singleton _, fun k hk => ?_, fun s _ k hk k' hk' _ _ => ?_⟩
  · rw [List.mem_singleton.mp hk, hsubfields]
    refine ⟨_, List.mem_singleton_self _, rfl, fun t ht _ _ _ => List.mem_singleton.mp ht, .inr ?_⟩
    decide +kernel
  · rw [List.mem_singleton.mp hk, List.mem_singleton.mp hk']

/-- A row without a name is given one, beside a row that has a name. -/
theorem row_given_name : ∃ left out,
    prune (ofConfig namesConfig) 1 (.list (((ofConfig namesConfig).applyOp
        [[("first_name", .str "A")], []] (.ofValue (renameOp 1))).map .obj)) =
      .ok (.list (left.set 1 (.obj out))) ∧
    prune (ofConfig namesConfig) 1 (.list [.obj [("first_name", .str "A")], .obj []]) =
      .ok (.list left) ∧
    Obj.get? out "first_name" = some (.str "B") := by
  have hstrict := isStrict_of_configOf configOf_namesConfig
  have hleft : prune (ofConfig namesConfig) 1
      (.list [.obj [("first_name", .str "A")], .obj []]) =
        .ok (.list [.obj [("first_name", .str "A")], .obj []]) := by
    rw [prune_list, pruneItems, pruneItem_of_plain hstrict isRepeater_namesConfig rfl, pruneItems,
      pruneItem_of_plain hstrict isRepeater_namesConfig rfl, pruneItems]
    rfl
  have hop : Names (renameOp 1) "update" := ⟨_, rfl, rfl⟩
  have hrow : ([[("first_name", .str "A")], []] : List Obj)[1]? = some [] := rfl
  obtain ⟨-, hpruned⟩ := update_prune_iff configOf_namesConfig hop rfl rfl hrow isPatch_rename 1
  obtain ⟨_, out, -, hupdated, hpatched⟩ := hpruned _ hleft
  refine ⟨_, out, hupdated, hleft, ?_⟩
  exact hpatched.ofAlias _ (List.mem_singleton_self _) (.str "B") (by decide +kernel) rfl

/-- A row that has a name keeps it, although an update gives another one under the alias. -/
theorem row_keeps_name :
    configOf (.obj namesConfig) = .ok namesConfig ∧
      (ofConfig namesConfig).IsPatch [("firstName", .str "B")] ∧
      prune (ofConfig namesConfig) 1 (.list (((ofConfig namesConfig).applyOp
          [[("first_name", .str "A")]] (.ofValue (renameOp 0))).map .obj)) =
        .ok (.list [.obj [("first_name", .str "A")]]) := by
  have hstrict := isStrict_of_configOf configOf_namesConfig
  refine ⟨configOf_namesConfig, isPatch_rename, ?_⟩
  have hupdated : (ofConfig namesConfig).applyOp [[("first_name", .str "A")]]
      (.ofValue (renameOp 0)) = [[("first_name", .str "A"), ("firstName", .str "B")]] := rfl
  rw [hupdated, List.map_singleton, prune_list, pruneItems,
    pruneItem_of_plain hstrict isRepeater_namesConfig rfl, pruneItems]
  rfl

end Repeater

end ContentEngine
