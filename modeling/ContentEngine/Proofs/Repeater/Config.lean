import ContentEngine.Proofs.Key
import ContentEngine.Proofs.Outcome
import ContentEngine.Repeater.Basic

/-!
# Strict configurations of repeaters

Whatever a configuration has been read from, the subfields of the repeater that it describes have
keys in their one form, and no two of them share a key (`isStrict_of_configOf`).
-/

namespace ContentEngine

/-! ### Fields in strict form -/

theorem isKey_of_snakeCase {v : Value} {key : String} (h : v.snakeCase = .ok key) : IsKey key := by
  rw [Value.snakeCase, Outcome.bind_eq_ok_iff] at h
  obtain ⟨text, -, h⟩ := h
  rw [Outcome.pure_eq_ok_iff] at h
  exact ⟨text, h.symm⟩

namespace FieldDef

variable {raw : Value} {o : Obj} {index : Int} {f : FieldDef}

theorem isKey_of_header? (h : header? o index = .ok (some f)) : IsKey f.key := by
  rw [header?, Outcome.bind_eq_ok_iff] at h
  obtain ⟨key, hkey, h⟩ := h
  split at h
  · rw [Outcome.pure_eq_ok_iff] at h
    contradiction
  · simp only [Outcome.bind_eq_ok_iff] at h
    obtain ⟨kind, -, order, -, h⟩ := h
    -- the label may be missing; the key is the same in both cases
    split at h <;>
      · simp only [Outcome.bind_eq_ok_iff, Outcome.pure_eq_ok_iff, Option.some.injEq] at h
        obtain ⟨label, -, help, -, rfl⟩ := h
        exact isKey_of_snakeCase hkey

/-- What a declaration is read as has the key and the kind that its header gives. -/
theorem header_of_ofValue? {found : Option FieldDef} (ho : raw.asObj? = some o)
    (h : ofValue? raw index = .ok found) : ∃ header, header? o index = .ok header ∧
      found.map (fun f => (f.key, f.kind)) = header.map fun f => (f.key, f.kind) := by
  rw [ofValue?] at h
  split at h
  · next hnone =>
    rw [ho] at hnone
    contradiction
  · next o' ho' =>
    obtain rfl : o = o' := Option.some.inj (ho.symm.trans ho')
    rw [Outcome.bind_eq_ok_iff] at h
    obtain ⟨header, hheader, h⟩ := h
    refine ⟨header, hheader, ?_⟩
    cases header with
    | none =>
      rw [Outcome.pure_eq_ok_iff] at h
      rw [← h]
    | some header =>
      -- the configuration is filled in afterwards, which leaves the rest alone
      simp only at h
      split at h
      · simp only [Outcome.bind_eq_ok_iff, Outcome.pure_eq_ok_iff] at h
        obtain ⟨limits, -, subfields, -, config, -, rfl⟩ := h
        rfl
      · simp only [Outcome.bind_eq_ok_iff, Outcome.pure_eq_ok_iff] at h
        obtain ⟨config, -, rfl⟩ := h
        rfl

theorem isKey_of_ofValue? (h : ofValue? raw index = .ok (some f)) : IsKey f.key := by
  cases ho : raw.asObj? with
  | none =>
    rw [ofValue?] at h
    split at h
    · simp at h
    · next hsome =>
      rw [ho] at hsome
      contradiction
  | some o =>
    obtain ⟨header, hheader, hsame⟩ := header_of_ofValue? ho h
    cases header with
    | none => contradiction
    | some header =>
      rw [Option.map_some, Option.map_some, Option.some.injEq, Prod.mk.injEq] at hsame
      rw [hsame.1]
      exact isKey_of_header? hheader

variable {raws : List Value} {index : Nat} {seen : List String} {fields : List FieldDef}

theorem subfieldsOf_cons_of_some (h : ofValue? raw index = .ok (some f)) (hseen : f.key ∉ seen) :
    subfieldsOf (raw :: raws) index seen =
      (f :: ·) <$> subfieldsOf raws (index + 1) (f.key :: seen) := by
  have hnot : ¬seen.contains f.key = true := by simpa using hseen
  rw [subfieldsOf, h, Outcome.ok_bind]
  exact if_neg hnot

/-- The fields that are read from a list have keys in their one form, which differ from each other
and from all that have been seen before. -/
theorem keys_of_subfieldsOf (h : subfieldsOf raws index seen = .ok fields) :
    (∀ f ∈ fields, IsKey f.key) ∧ (fields.map (·.key)).Nodup ∧ ∀ f ∈ fields, f.key ∉ seen := by
  induction raws generalizing index seen fields with
  | nil =>
    rw [subfieldsOf, Except.ok.injEq] at h
    subst h
    simp
  | cons raw rest ih =>
    rw [subfieldsOf, Outcome.bind_eq_ok_iff] at h
    obtain ⟨field, hfield, h⟩ := h
    cases field with
    | none => exact ih h
    | some field =>
      simp only at h
      split at h
      · exact ih h
      · next hseen =>
        rw [Outcome.bind_eq_ok_iff] at h
        obtain ⟨others, hothers, h⟩ := h
        rw [Outcome.pure_eq_ok_iff] at h
        subst h
        obtain ⟨hkeys, hnodup, hfresh⟩ := ih hothers
        -- what follows the field has seen its key
        have hne : ∀ f ∈ others, f.key ≠ field.key := fun f hf heq =>
          hfresh f hf (heq ▸ List.mem_cons_self)
        refine ⟨?_, ?_, ?_⟩
        · rintro f (_ | ⟨_, hf⟩)
          · exact isKey_of_ofValue? hfield
          · exact hkeys f hf
        · rw [List.map_cons, List.nodup_cons]
          refine ⟨fun hmem => ?_, hnodup⟩
          obtain ⟨f, hf, heq⟩ := List.mem_map.mp hmem
          exact hne f hf heq
        · rintro f (_ | ⟨_, hf⟩)
          · simpa using hseen
          · exact fun hmem => hfresh f hf (List.mem_cons_of_mem _ hmem)

end FieldDef

/-! ### Subfields of a strict configuration -/

/-- The keys of the subfields of a repeater. -/
def Repeater.keys (r : Repeater) : List String :=
  r.subfields.map (·.key)

/-- A repeater whose subfields have keys in their one form, none of which is used twice. -/
structure Repeater.IsStrict (r : Repeater) : Prop where
  isKey : ∀ s ∈ r.subfields, IsKey s.key
  nodup : r.keys.Nodup

/-- The subfield that is read back from a field in strict form. -/
def FieldDef.toSubfield (f : FieldDef) : Subfield :=
  ⟨f.key, .str f.kind.name, .str f.label, .obj f.config⟩

theorem filterMap_ofValue?_toValue (fields : List FieldDef) :
    (fields.map FieldDef.toValue).filterMap Subfield.ofValue? = fields.map FieldDef.toSubfield := by
  rw [List.filterMap_map, ← List.filterMap_eq_map]
  rfl

theorem nodup_keys_repeaterMembers (limits : RowLimits) (texts : RowTexts)
    (subfields rules : List Value) :
    (Obj.keys (repeaterMembers limits texts subfields rules)).Nodup := by
  simp [repeaterMembers, Obj.keys, Table.keys]

/-- A strict configuration is the given one, without the keys of older ones, with the settings of
the repeater written into it. -/
theorem repeaterNormalConfig_eq_ok_iff {config c : Obj} {limits : RowLimits}
    {subfields : List Value} : repeaterNormalConfig config limits subfields = .ok c ↔
      ∃ rules texts, VisibilityRule.listOf (Obj.getList config "rules") = .ok rules ∧
        RowTexts.ofConfig config = .ok texts ∧
        Obj.merge (oldLimitKeys.foldl Obj.erase config)
          (repeaterMembers limits texts subfields (rules.map VisibilityRule.toValue)) = c := by
  simp only [repeaterNormalConfig, Outcome.bind_eq_ok_iff, Outcome.pure_eq_ok_iff,
    exists_and_left]

/-- What is written into a configuration is what it holds then. -/
theorem get_merge_repeaterMembers {base : Obj} {limits : RowLimits} {texts : RowTexts}
    {subfields rules : List Value} {key : String} {v : Value}
    (h : Obj.get? (repeaterMembers limits texts subfields rules) key = some v) :
    Obj.get (Obj.merge base (repeaterMembers limits texts subfields rules)) key = v := by
  rw [Obj.get, Obj.get?_merge _ (nodup_keys_repeaterMembers _ _ _ _), h]
  rfl

theorem getList_repeaterNormalConfig {config c : Obj} {limits : RowLimits} {subfields : List Value}
    (h : repeaterNormalConfig config limits subfields = .ok c) :
    Obj.getList c "subfields" = subfields := by
  obtain ⟨rules, texts, -, -, rfl⟩ := repeaterNormalConfig_eq_ok_iff.mp h
  rw [Obj.getList, get_merge_repeaterMembers (v := .list subfields) rfl]
  rfl

theorem Repeater.isStrict_of_repeaterConfigOf {config c : Obj}
    (h : FieldDef.repeaterConfigOf config = .ok c) : (Repeater.ofConfig c).IsStrict := by
  simp only [FieldDef.repeaterConfigOf, Outcome.bind_eq_ok_iff] at h
  obtain ⟨limits, -, fields, hfields, hconfig⟩ := h
  obtain ⟨hkeys, hnodup, -⟩ := FieldDef.keys_of_subfieldsOf hfields
  have hsubfields : (Repeater.ofConfig c).subfields = fields.map FieldDef.toSubfield := by
    rw [Repeater.ofConfig, getList_repeaterNormalConfig hconfig, filterMap_ofValue?_toValue]
  constructor
  · intro s hs
    rw [hsubfields] at hs
    obtain ⟨f, hf, rfl⟩ := List.mem_map.mp hs
    exact hkeys f hf
  · rw [keys, hsubfields, List.map_map]
    exact hnodup

/-- Every configuration is strict once it has been read. -/
theorem Repeater.isStrict_of_configOf {source : Value} {c : Obj}
    (h : Repeater.configOf source = .ok c) : (Repeater.ofConfig c).IsStrict := by
  rw [Repeater.configOf] at h
  split at h
  · exact isStrict_of_repeaterConfigOf h
  · exact isStrict_of_repeaterConfigOf h

/-! ### Configurations that say little -/

/-- A field in strict form that says nothing besides its kind and its configuration. -/
def usualField (key : String) (kind : FieldKind) (index : Int) (config : Obj) : FieldDef where
  id := .null
  key := key
  label := key
  kind := kind
  required := false
  helpText := ""
  orderIndex := index
  config := config

/-- The strict configuration of a repeater that says nothing besides how deep repeaters may nest,
which rules there are, and which subfields. -/
def usualConfig (maxDepth : Int) (rules : List VisibilityRule) (subfields : List FieldDef) : Obj :=
  [("subfields", .list (subfields.map FieldDef.toValue)), ("minRows", .null), ("maxRows", .null),
    ("addLabel", .str "Add row"), ("layout", .str "cards"), ("maxDepth", .int maxDepth),
    ("rowLabelTemplate", .str ""), ("rules", .list (rules.map VisibilityRule.toValue))]

end ContentEngine
