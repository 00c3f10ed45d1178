import ContentEngine.Proofs.Field.Again

/-!
# Well-formed configurations of repeaters

Who shows or stores the rows of a repeater looks into its strict configuration without asking
whether something is there. `Repeater.IsWellFormed` says what is there, and of which form. The
strict configuration of a repeater is well formed, and so are the configurations of the repeaters
inside it: each of them is the strict form of what the declaration of its field holds
(`Repeater.exists_repeaterConfigOf_of_isNested`).
-/

namespace ContentEngine

/-! ### What a configuration has -/

/-- Whether the limits of a repeater make sense: its numbers of rows are missing or not negative,
the upper one is no less than the lower one, and it may nest to some depth. -/
structure RowLimits.IsSound (limits : RowLimits) : Prop where
  minRows : ∀ least, limits.minRows = some least → 0 ≤ least
  maxRows : ∀ most, limits.maxRows = some most → max (limits.minRows.getD 0) 0 ≤ most
  maxDepth : 1 ≤ limits.maxDepth

theorem RowLimits.isSound_ofNumbers (minRows maxRows maxDepth : Option Int) :
    (ofNumbers minRows maxRows maxDepth).IsSound := by
  constructor
  · intro least hleast
    obtain ⟨given, -, rfl⟩ := Option.map_eq_some_iff.mp hleast
    exact le_max_right given 0
  · intro most hmost
    obtain ⟨given, -, rfl⟩ := Option.map_eq_some_iff.mp hmost
    cases minRows with
    | none => exact max_le (le_max_right given 0) (le_max_right given 0)
    | some least =>
      have hlow : 0 ≤ max least 0 := le_max_right least 0
      exact max_le (le_max_right given _) (hlow.trans (le_max_right given _))
  · have hdefault : 1 ≤ defaultMaxDepth := by decide
    cases maxDepth with
    | none => exact hdefault
    | some depth =>
      simp only [ofNumbers]
      split
      · assumption
      · exact hdefault

theorem RowLimits.isSound_of_ofConfig {config : Obj} {limits : RowLimits}
    (h : ofConfig config = .ok limits) : limits.IsSound := by
  simp only [ofConfig, Outcome.bind_eq_ok_iff, Outcome.pure_eq_ok_iff] at h
  obtain ⟨minRows, -, maxRows, -, maxDepth, -, rfl⟩ := h
  exact isSound_ofNumbers minRows maxRows maxDepth

/-- A subfield that has been read has a header in strict form, and the strict form of some
configuration for its kind. -/
theorem FieldDef.exists_normalConfig_of_mem {raws : List Value} {index : Nat} {seen : List String}
    {fields : List FieldDef} {f : FieldDef} (h : subfieldsOf raws index seen = .ok fields)
    (hf : f ∈ fields) : f.IsHeader ∧ ∃ source, normalConfig f.kind source = .ok f.config := by
  obtain ⟨raw, -, _, hread⟩ := exists_of_mem_subfieldsOf h hf
  obtain ⟨_, -, hheader, -, hconfig⟩ := exists_of_ofValue? hread
  exact ⟨hheader, fieldConfig raw, hconfig⟩

namespace Repeater

/-- Whether a configuration holds sound limits, a layout that there is, subfields whose keys are
distinct and in their one form, and rules whose keys are. A field that is written out has one of the
kinds of field. -/
structure IsWellFormed (config : Obj) : Prop where
  limits : ∃ limits : RowLimits, limits.IsSound ∧
    Obj.get? config "minRows" = some (.ofInt? limits.minRows) ∧
    Obj.get? config "maxRows" = some (.ofInt? limits.maxRows) ∧
    Obj.get? config "maxDepth" = some (.int limits.maxDepth)
  layout : Obj.get? config "layout" = some (.str "cards") ∨
    Obj.get? config "layout" = some (.str "table")
  subfields : ∃ fields : List FieldDef,
    Obj.get? config "subfields" = some (.list (fields.map FieldDef.toValue)) ∧
    (fields.map (·.key)).Nodup ∧ ∀ f ∈ fields, f.key ≠ "" ∧ snakeCase f.key = f.key
  rules : ∃ rules : List VisibilityRule,
    Obj.get? config "rules" = some (.list (rules.map VisibilityRule.toValue)) ∧
    ∀ r ∈ rules, snakeCase r.ifKey = r.ifKey ∧
      ∀ key ∈ r.targets, key ≠ "" ∧ snakeCase key = key

/-- Whether a configuration is that of a repeater inside another one, to any depth, or that of the
other one itself. -/
inductive IsNested (outer : Obj) : Obj → Prop
  | self : IsNested outer outer
  | subfield {config : Obj} {sub : Value} (hconfig : IsNested outer config)
      (hmem : sub ∈ Obj.getList config "subfields")
      (htype : Obj.get sub.members "type" = .str "repeater") :
      IsNested outer (Obj.getObj sub.members "config")

/-! ### Strict configurations -/

variable {config c inner : Obj}

theorem isWellFormed_of_repeaterConfigOf (h : FieldDef.repeaterConfigOf config = .ok c) :
    IsWellFormed c := by
  obtain ⟨limits, texts, fields, rules, hlimits, -, hfields, hrules, hholds⟩ :=
    FieldDef.exists_of_repeaterConfigOf h
  have hnodup := (FieldDef.keys_of_subfieldsOf hfields).2.1
  constructor
  · exact ⟨limits, RowLimits.isSound_of_ofConfig hlimits,
      hholds.members ("minRows", .ofInt? limits.minRows) (by simp [repeaterMembers]),
      hholds.members ("maxRows", .ofInt? limits.maxRows) (by simp [repeaterMembers]),
      hholds.members ("maxDepth", .int limits.maxDepth) (by simp [repeaterMembers])⟩
  · have hlayout := hholds.members ("layout", .str texts.layout.text) (by simp [repeaterMembers])
    cases hname : texts.layout with
    | cards =>
      rw [hname] at hlayout
      exact .inl hlayout
    | table =>
      rw [hname] at hlayout
      exact .inr hlayout
  · refine ⟨fields, hholds.members ("subfields", _) (by simp [repeaterMembers]), hnodup, ?_⟩
    intro f hf
    have hheader := (FieldDef.exists_normalConfig_of_mem hfields hf).1
    exact ⟨hheader.key_ne, hheader.isKey.snakeCase_eq⟩
  · refine ⟨rules, hholds.members ("rules", _) (by simp [repeaterMembers]), fun r hr => ?_⟩
    have hstrict := VisibilityRule.isStrict_of_listOf hrules r hr
    exact ⟨hstrict.isKey.snakeCase_eq, fun key hkey =>
      ⟨(hstrict.targets key hkey).2, (hstrict.targets key hkey).1.snakeCase_eq⟩⟩

/-- The configuration of a repeater directly inside a strict configuration is strict: it has been
read together with the field that it belongs to. -/
theorem exists_repeaterConfigOf_of_mem {sub : Value} (h : FieldDef.repeaterConfigOf config = .ok c)
    (hmem : sub ∈ Obj.getList c "subfields")
    (htype : Obj.get sub.members "type" = .str "repeater") :
    ∃ source, FieldDef.repeaterConfigOf source = .ok (Obj.getObj sub.members "config") := by
  obtain ⟨limits, texts, fields, rules, -, -, hfields, -, hholds⟩ :=
    FieldDef.exists_of_repeaterConfigOf h
  have hsubfields : Obj.getList c "subfields" = fields.map FieldDef.toValue :=
    hholds.getList (by simp [repeaterMembers])
  rw [hsubfields] at hmem
  obtain ⟨f, hf, rfl⟩ := List.mem_map.mp hmem
  have hkind : f.kind = .repeater := FieldKind.eq_repeater_of_name (Value.str.inj htype)
  obtain ⟨-, source, hconfig⟩ := FieldDef.exists_normalConfig_of_mem hfields hf
  rw [hkind] at hconfig
  exact ⟨source, hconfig⟩

/-- Every configuration inside a strict one is strict, by induction on how deep it lies. -/
theorem exists_repeaterConfigOf_of_isNested (h : FieldDef.repeaterConfigOf config = .ok c)
    (hnested : IsNested c inner) : ∃ source, FieldDef.repeaterConfigOf source = .ok inner := by
  induction hnested with
  | self => exact ⟨config, h⟩
  | subfield _ hmem htype ih =>
    obtain ⟨source, hsource⟩ := ih
    exact exists_repeaterConfigOf_of_mem hsource hmem htype

/-- The strict configuration of a repeater is well formed, and so is the configuration of every
repeater inside it, to any depth. -/
theorem strict_config_wellFormed (h : FieldDef.repeaterConfigOf config = .ok c)
    (hnested : IsNested c inner) : IsWellFormed inner := by
  obtain ⟨source, hsource⟩ := exists_repeaterConfigOf_of_isNested h hnested
  exact isWellFormed_of_repeaterConfigOf hsource

/-! ### A loose configuration -/

/-- A configuration in an older shape whose bounds contradict each other, with two subfields of one
key. The first one is a repeater, and its settings have an older name, too. -/
def looseConfig : Obj :=
  [("min_rows", .str " 3 "), ("maxRows", .int 1), ("layout", .str "Table"), ("subfields", .list [
    .obj [("fieldKey", .str "Line Items"), ("type", .str "repeater"),
      ("options", .obj [("max_depth", .int 0)])],
    .obj [("key", .str "lineItems")]])]

/-- The subfield that is read of it. -/
def linesField : FieldDef :=
  usualField "line_items" .repeater 0 [("minRows", .null), ("maxRows", .null),
    ("addLabel", .str "Add row"), ("layout", .str "cards"), ("maxDepth", .int 2),
    ("rowLabelTemplate", .str ""), ("subfields", .list []), ("rules", .list [])]

/-- The strict form of the configuration. -/
def tidiedConfig : Obj :=
  [("maxRows", .int 3), ("layout", .str "table"), ("subfields", .list [linesField.toValue]),
    ("minRows", .int 3), ("addLabel", .str "Add row"), ("maxDepth", .int 2),
    ("rowLabelTemplate", .str ""), ("rules", .list [])]

theorem repeaterConfigOf_looseConfig :
    FieldDef.repeaterConfigOf looseConfig = .ok tidiedConfig := by
  cbv

theorem looseConfig_tidied : IsNested tidiedConfig linesField.config ∧
    IsWellFormed tidiedConfig ∧ IsWellFormed linesField.config := by
  have hnested : IsNested tidiedConfig (Obj.getObj linesField.toValue.members "config") :=
    .subfield .self List.mem_cons_self rfl
  exact ⟨hnested, strict_config_wellFormed repeaterConfigOf_looseConfig .self,
    strict_config_wellFormed repeaterConfigOf_looseConfig hnested⟩

end Repeater

end ContentEngine
