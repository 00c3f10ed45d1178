import Mathlib
import ContentEngine.Proofs.Field.Settings

/-!
# Fields that are read again

What a declaration is read as is a declaration itself, and it is read again: once for each level
that it is nested in, and whenever the fields of a type are shown. The second reading changes one
thing only. A rule whose operator is a text of blanks loses it in the first reading, and the second
one puts the usual operator in its place; `fillOperators` says so for a field and for the repeaters
in it, to any depth. After that nothing changes any more, and if there is no blank operator nothing
changes at all (`FieldDef.read_again`).
-/

namespace ContentEngine

/-! ### Operators that have been left empty -/

/-- A rule as it is written, whose operator, if it is the empty text, is the one of rules without an
operator. -/
def Value.fillOperator : Value → Value
  | .obj o => if (Obj.get o "op").isText "" then .obj (Obj.set o "op" (.str "equals")) else .obj o
  | v => v

mutual

/-- A field as it is written, with the operators of its rules and those of its subfields filled in.
Only repeaters have rules. -/
def Value.fillOperators (field : Value) : Value :=
  match field with
  | .obj o =>
    if (Obj.get o "type").isText FieldKind.repeater.name then
      .obj (Obj.set o "config" (.obj (Obj.fillOperators (Obj.getObj o "config"))))
    else .obj o
  | v => v
termination_by field.weight
decreasing_by
  have hconfig := Value.weight_get_le o "config"
  have hmembers := Value.membersWeight_members_le (Obj.get o "config")
  rw [Value.weight, Obj.getObj]
  omega

/-- The configuration of a repeater, with the operators of its rules and those of its subfields
filled in. -/
def Obj.fillOperators (config : Obj) : Obj :=
  Obj.set (Obj.set config "subfields"
      (.list ((Obj.getList config "subfields").attach.map fun sub => sub.val.fillOperators)))
    "rules" (.list ((Obj.getList config "rules").map Value.fillOperator))
termination_by Value.membersWeight config
decreasing_by
  have hitem := Value.weight_lt_of_mem sub.property
  have hitems := Value.itemsWeight_getList_le config "subfields"
  omega

end

/-- A field with the operators of its rules and those of its subfields filled in. -/
def FieldDef.fillOperators (f : FieldDef) : FieldDef :=
  if f.kind = .repeater then { f with config := f.config.fillOperators } else f

theorem Obj.fillOperators_eq (config : Obj) : config.fillOperators =
    Obj.set (Obj.set config "subfields"
        (.list ((Obj.getList config "subfields").map Value.fillOperators)))
      "rules" (.list ((Obj.getList config "rules").map Value.fillOperator)) := by
  rw [fillOperators, List.attach_map_val (f := Value.fillOperators)]

theorem Value.fillOperators_obj (o : Obj) : (Value.obj o).fillOperators =
    if (Obj.get o "type").isText FieldKind.repeater.name then
      .obj (Obj.set o "config" (.obj (Obj.getObj o "config").fillOperators))
    else .obj o := by
  rw [fillOperators]

theorem Value.fillOperator_fillOperator (v : Value) :
    v.fillOperator.fillOperator = v.fillOperator := by
  cases v with
  | obj o =>
    by_cases hempty : (Obj.get o "op").isText "" = true
    · have hfilled : (Value.obj o).fillOperator = .obj (Obj.set o "op" (.str "equals")) := by
        rw [fillOperator, if_pos hempty]
      rw [hfilled, fillOperator, Obj.get_set_self]
      rfl
    · have hkept : (Value.obj o).fillOperator = .obj o := by rw [fillOperator, if_neg hempty]
      rw [hkept, hkept]
  | _ => rfl

theorem VisibilityRule.toValue_fillOperator (r : VisibilityRule) :
    r.fillOperator.toValue = r.toValue.fillOperator := by
  have hop : Obj.get [("ifKey", .str r.ifKey), ("op", .str r.operator), ("value", r.value),
      ("action", .str r.action.text), ("targets", .ofTexts r.targets)] "op" = .str r.operator := rfl
  rw [toValue, toValue, Value.fillOperator, hop, fillOperator, Value.isText]
  by_cases hempty : r.operator = ""
  · rw [if_pos hempty, if_pos (beq_iff_eq.mpr hempty)]
    rfl
  · rw [if_neg hempty, if_neg (by simpa using hempty)]

theorem FieldKind.eq_repeater_of_name {kind : FieldKind} (h : kind.name = "repeater") :
    kind = .repeater := by
  cases kind <;> first | rfl | simp [name] at h

/-- A field with its operators filled in is written as the written field is filled in. -/
theorem FieldDef.toValue_fillOperators (f : FieldDef) :
    f.fillOperators.toValue = f.toValue.fillOperators := by
  have htype : Obj.get f.toObj "type" = .str f.kind.name := rfl
  have hconfig : Obj.getObj f.toObj "config" = f.config := rfl
  rw [toValue, toValue, Value.fillOperators_obj, htype, hconfig, Value.isText, fillOperators]
  by_cases hkind : f.kind = .repeater
  · rw [if_pos hkind, if_pos (by rw [hkind]; rfl)]
    rfl
  · have hname : ¬(f.kind.name == FieldKind.repeater.name) = true := fun hname =>
      hkind (FieldKind.eq_repeater_of_name (beq_iff_eq.mp hname))
    rw [if_neg hkind, if_neg hname]

/-- A configuration in which nothing is left to fill in stays as it is. -/
theorem Obj.fillOperators_eq_self {config : Obj} {subfields rules : List Value}
    (hsubfields : get? config "subfields" = some (.list subfields))
    (hrules : get? config "rules" = some (.list rules))
    (hsub : ∀ sub ∈ subfields, sub.fillOperators = sub)
    (hrule : ∀ rule ∈ rules, rule.fillOperator = rule) : config.fillOperators = config := by
  have hfields : (getList config "subfields").map Value.fillOperators = subfields := by
    rw [getList, get_of_get?_eq_some hsubfields]
    exact (List.map_congr_left hsub).trans (List.map_id _)
  have hfilled : (getList config "rules").map Value.fillOperator = rules := by
    rw [getList, get_of_get?_eq_some hrules]
    exact (List.map_congr_left hrule).trans (List.map_id _)
  have hset : set config "subfields" (.list subfields) = config := Table.set_of_get? hsubfields
  rw [fillOperators_eq, hfields, hfilled, hset]
  exact Table.set_of_get? hrules

theorem Obj.fillOperators_again {config : Obj}
    (h : ∀ sub ∈ getList config "subfields", sub.fillOperators.fillOperators = sub.fillOperators) :
    config.fillOperators.fillOperators = config.fillOperators := by
  have hsubfields : get? config.fillOperators "subfields" =
      some (.list ((getList config "subfields").map Value.fillOperators)) := by
    rw [fillOperators_eq, get?_set, if_neg (by decide), get?_set, if_pos rfl]
  have hrules : get? config.fillOperators "rules" =
      some (.list ((getList config "rules").map Value.fillOperator)) := by
    rw [fillOperators_eq, get?_set, if_pos rfl]
  refine fillOperators_eq_self hsubfields hrules ?_ ?_
  · exact List.forall_mem_map.mpr h
  · exact List.forall_mem_map.mpr fun rule _ => rule.fillOperator_fillOperator

/-- Filling in leaves nothing to fill in. The induction goes by the weight of the field, since its
configuration need not be in strict form. -/
theorem Value.fillOperators_fillOperators (field : Value) :
    field.fillOperators.fillOperators = field.fillOperators := by
  induction hweight : field.weight using Nat.strongRecOn generalizing field with
  | ind weight ih =>
    subst hweight
    cases field with
    | obj o =>
      by_cases htype : (Obj.get o "type").isText FieldKind.repeater.name = true
      · have hlight : ∀ sub ∈ Obj.getList (Obj.getObj o "config") "subfields",
            sub.weight < (Value.obj o).weight := by
          intro sub hsub
          have hitem := weight_lt_of_mem hsub
          have hitems := itemsWeight_getList_le (Obj.getObj o "config") "subfields"
          have hmembers := membersWeight_members_le (Obj.get o "config")
          have hget := weight_get_le o "config"
          rw [weight]
          rw [Obj.getObj] at hitem hitems
          omega
        have hagain := Obj.fillOperators_again fun sub hsub => ih _ (hlight sub hsub) sub rfl
        obtain ⟨config, hconfig⟩ : ∃ config, (Obj.getObj o "config").fillOperators = config :=
          ⟨_, rfl⟩
        rw [hconfig] at hagain
        have hfilled : (Value.obj o).fillOperators = .obj (Obj.set o "config" (.obj config)) := by
          rw [fillOperators_obj, if_pos htype, hconfig]
        have hsame : (Obj.get (Obj.set o "config" (.obj config)) "type").isText
            FieldKind.repeater.name = true := by
          rwa [Obj.get, Obj.get?_set, if_neg (by decide)]
        have hget : Obj.getObj (Obj.set o "config" (.obj config)) "config" = config := by
          rw [Obj.getObj, Obj.get_set_self]
          rfl
        have hset : Obj.set (Obj.set o "config" (.obj config)) "config" (.obj config) =
            Obj.set o "config" (.obj config) :=
          Table.set_of_get? (Table.get?_set_self _ _ _)
        rw [hfilled, fillOperators_obj, if_pos hsame, hget, hagain, hset]
      · have hkept : (Value.obj o).fillOperators = .obj o := by
          rw [fillOperators_obj, if_neg htype]
        rw [hkept, hkept]
    | _ => simp [fillOperators]

namespace FieldDef

theorem fillOperators_of_ne {f : FieldDef} (h : f.kind ≠ .repeater) : f.fillOperators = f :=
  if_neg h

theorem fillOperators_of_repeater {f : FieldDef} (h : f.kind = .repeater) :
    f.fillOperators = { f with config := f.config.fillOperators } :=
  if_pos h

theorem key_fillOperators (f : FieldDef) : f.fillOperators.key = f.key := by
  rw [fillOperators]
  split <;> rfl

theorem fillOperators_fillOperators (f : FieldDef) :
    f.fillOperators.fillOperators = f.fillOperators := by
  by_cases hkind : f.kind = .repeater
  · have hagain : f.config.fillOperators.fillOperators = f.config.fillOperators :=
      Obj.fillOperators_again fun sub _ => sub.fillOperators_fillOperators
    rw [fillOperators_of_repeater hkind, fillOperators, if_pos hkind, hagain]
  · rw [fillOperators_of_ne hkind, fillOperators_of_ne hkind]

/-! ### What a declaration says besides its configuration -/

variable {f : FieldDef} {o : Obj} {index : Int}

/-- Whether the key of a field is in its one form, and its label is trimmed and not empty. -/
structure IsHeader (f : FieldDef) : Prop where
  isKey : IsKey f.key
  key_ne : f.key ≠ ""
  trim_label : trim f.label = f.label
  label_ne : f.label ≠ ""

theorem IsHeader.of_config {config : Obj} (h : f.IsHeader) :
    IsHeader { f with config := config } :=
  ⟨h.isKey, h.key_ne, h.trim_label, h.label_ne⟩

/-- What is read as the label of a field is trimmed and not empty, since a key is neither. -/
theorem label_spec {key : String} (hkey : IsKey key) (hne : key ≠ "") (given : String) :
    trim (if trim given = "" then key else trim given) =
        (if trim given = "" then key else trim given) ∧
      (if trim given = "" then key else trim given) ≠ "" := by
  split
  · exact ⟨hkey.trim_eq, hne⟩
  · exact ⟨trim_trim given, ‹_›⟩

theorem isHeader_of_header? (h : header? o index = .ok (some f)) :
    f.IsHeader ∧ FieldKind.ofValue (Obj.get o "type") = .ok f.kind ∧ f.config = [] := by
  rw [header?, Outcome.bind_eq_ok_iff] at h
  obtain ⟨key, hkey, h⟩ := h
  have hisKey := isKey_of_snakeCase hkey
  split at h
  · rw [Outcome.pure_eq_ok_iff] at h
    contradiction
  · next hne =>
    simp only [Outcome.bind_eq_ok_iff] at h
    obtain ⟨kind, hkind, order, -, h⟩ := h
    -- the label may be missing; then it is read as the key
    split at h <;>
    · simp only [Outcome.bind_eq_ok_iff, Outcome.pure_eq_ok_iff, Option.some.injEq] at h
      obtain ⟨label, -, help, -, rfl⟩ := h
      obtain ⟨htrim, hlabel⟩ := label_spec hisKey hne label
      exact ⟨⟨hisKey, hne, htrim, hlabel⟩, hkind, rfl⟩

/-- What a field says besides its configuration is read again as it is. -/
theorem IsHeader.header?_toObj (h : f.IsHeader) (index : Int) :
    header? f.toObj index = .ok (some { f with config := [] }) := by
  have hmissing : Obj.get f.toObj "field_key" = .null := rfl
  have hkey : (Obj.firstTruthy f.toObj ["field_key", "key", "fieldKey"]).snakeCase = .ok f.key := by
    rw [Obj.firstTruthy, hmissing]
    exact Obj.snakeCase_firstTruthy rfl h.isKey h.key_ne
  have hkind : FieldKind.ofValue (Obj.get f.toObj "type") = .ok f.kind :=
    FieldKind.ofValue_name f.kind
  have horder : (Obj.getEither f.toObj "order_index" "orderIndex").toInteger =
      .ok (some f.orderIndex) := rfl
  have hlabel : Obj.get f.toObj "label" = .str f.label := rfl
  have hhelp : (Obj.firstTruthy f.toObj ["help_text", "helpText"]).presentText = .ok f.helpText :=
    Obj.presentText_firstTruthy rfl rfl
  have htrim : (if trim f.label = "" then f.key else trim f.label) = f.label := by
    rw [h.trim_label, if_neg h.label_ne]
  rw [header?, hkey, Outcome.ok_bind, if_neg h.key_ne, hkind, Outcome.ok_bind, horder,
    Outcome.ok_bind]
  simp only [hlabel, hhelp, Value.isNull, Value.text, Bool.false_eq_true, if_false,
    Outcome.ok_bind, htrim]
  rfl

/-- The configuration of a field that is read again is the one that it has. -/
theorem fieldConfig_toValue (f : FieldDef) : fieldConfig f.toValue = f.config :=
  fieldConfig_of_config rfl rfl rfl

/-! ### Subfields -/

variable {raws : List Value} {seen : List String} {fields : List FieldDef}

/-- Every subfield that is read is read of one of the declarations. -/
theorem exists_of_mem_subfieldsOf {index : Nat} (h : subfieldsOf raws index seen = .ok fields)
    (hf : f ∈ fields) : ∃ raw ∈ raws, ∃ index, ofValue? raw index = .ok (some f) := by
  induction raws generalizing index seen fields with
  | nil =>
    rw [subfieldsOf, Except.ok.injEq] at h
    subst h
    contradiction
  | cons raw rest ih =>
    have hrest {others : List FieldDef} {index : Nat} {seen : List String}
        (h : subfieldsOf rest index seen = .ok others) (hf : f ∈ others) :
        ∃ raw' ∈ raw :: rest, ∃ index, ofValue? raw' index = .ok (some f) := by
      obtain ⟨raw', hraw, hread⟩ := ih h hf
      exact ⟨raw', List.mem_cons_of_mem raw hraw, hread⟩
    rw [subfieldsOf, Outcome.bind_eq_ok_iff] at h
    obtain ⟨found, hfound, h⟩ := h
    cases found with
    | none => exact hrest h hf
    | some field =>
      simp only at h
      split at h
      · exact hrest h hf
      · simp only [Outcome.bind_eq_ok_iff, Outcome.pure_eq_ok_iff] at h
        obtain ⟨others, hothers, rfl⟩ := h
        rcases List.mem_cons.mp hf with rfl | hf
        · exact ⟨raw, List.mem_cons_self, _, hfound⟩
        · exact hrest hothers hf

/-- Subfields with distinct keys are read again one by one. -/
theorem subfieldsOf_toValue {g : FieldDef → FieldDef} (hkey : ∀ f, (g f).key = f.key)
    (hnodup : (fields.map (·.key)).Nodup) (index : Nat) (hseen : ∀ f ∈ fields, f.key ∉ seen)
    (h : ∀ f ∈ fields, ∀ index : Int, ofValue? f.toValue index = .ok (some (g f))) :
    subfieldsOf (fields.map toValue) index seen = .ok (fields.map g) := by
  induction fields generalizing index seen with
  | nil => rw [List.map_nil, subfieldsOf, List.map_nil]
  | cons f rest ih =>
    rw [List.forall_mem_cons] at hseen h
    rw [List.map_cons, List.nodup_cons] at hnodup
    have hfresh : ∀ other ∈ rest, other.key ∉ (g f).key :: seen := by
      intro other hother hmem
      rcases List.mem_cons.mp hmem with heq | hmem
      · rw [hkey] at heq
        exact hnodup.1 (List.mem_map.mpr ⟨other, hother, heq⟩)
      · exact hseen.2 other hother hmem
    rw [List.map_cons, subfieldsOf_cons_of_some (h.1 index) (by rw [hkey]; exact hseen.1),
      ih hnodup.2 (index + 1) hfresh h.2]
    rfl

/-! ### Settings -/

variable {config c : Obj} {kind : FieldKind}

/-- What the strict configuration of a repeater is made of. -/
theorem exists_of_repeaterConfigOf (h : repeaterConfigOf config = .ok c) :
    ∃ limits texts fields rules, RowLimits.ofConfig config = .ok limits ∧
      RowTexts.ofConfig config = .ok texts ∧
      subfieldsOf (Obj.getList config "subfields") 0 [] = .ok fields ∧
      VisibilityRule.listOf (Obj.getList config "rules") = .ok rules ∧
      HoldsSettings limits texts (fields.map toValue) (rules.map VisibilityRule.toValue) c := by
  simp only [repeaterConfigOf, Outcome.bind_eq_ok_iff] at h
  obtain ⟨limits, hlimits, fields, hfields, h⟩ := h
  obtain ⟨rules, texts, hrules, htexts, rfl⟩ := repeaterNormalConfig_eq_ok_iff.mp h
  exact ⟨limits, texts, fields, rules, hlimits, htexts, hfields, hrules,
    holdsSettings_merge _ _ _ _ _⟩

/-- The strict configuration of a repeater is read again with its operators filled in, if its
subfields are. -/
theorem repeaterConfigOf_again (h : repeaterConfigOf config = .ok c)
    (hsub : ∀ sub ∈ Obj.getList config "subfields", ∀ (index : Int) f,
      ofValue? sub index = .ok (some f) →
        ∀ index : Int, ofValue? f.toValue index = .ok (some f.fillOperators)) :
    repeaterConfigOf c = .ok c.fillOperators := by
  obtain ⟨limits, texts, fields, rules, hlimits, htexts, hfields, hrules, hc⟩ :=
    exists_of_repeaterConfigOf h
  obtain ⟨-, hnodup, -⟩ := keys_of_subfieldsOf hfields
  have hsubfields : Obj.getList c "subfields" = fields.map toValue :=
    hc.getList (by simp [repeaterMembers])
  have hlist : Obj.getList c "rules" = rules.map VisibilityRule.toValue :=
    hc.getList (by simp [repeaterMembers])
  have hread : subfieldsOf (fields.map toValue) 0 [] = .ok (fields.map fillOperators) := by
    refine subfieldsOf_toValue key_fillOperators hnodup 0 (by simp) fun f hf => ?_
    obtain ⟨sub, hmem, index, hsub'⟩ := exists_of_mem_subfieldsOf hfields hf
    exact hsub sub hmem index f hsub'
  have hfill : (fields.map fillOperators).map toValue =
      (fields.map toValue).map Value.fillOperators := by
    rw [List.map_map, List.map_map]
    exact List.map_congr_left fun f _ => f.toValue_fillOperators
  have hfillRules : (rules.map VisibilityRule.fillOperator).map VisibilityRule.toValue =
      (rules.map VisibilityRule.toValue).map Value.fillOperator := by
    rw [List.map_map, List.map_map]
    exact List.map_congr_left fun r _ => r.toValue_fillOperator
  rw [repeaterConfigOf, hc.limits_eq hlimits, Outcome.ok_bind, hsubfields, hread, Outcome.ok_bind,
    repeaterNormalConfig_eq_ok_iff.mpr ⟨_, texts, ?_, hc.texts_eq htexts, rfl⟩, hc.merge_eq,
    Obj.fillOperators_eq, hsubfields, hlist, hfill, hfillRules]
  rw [hlist]
  exact VisibilityRule.listOf_toValue (VisibilityRule.isStrict_of_listOf hrules)

/-- In the strict configuration of a repeater nothing is left to fill in, if no operator has been
blank and nothing is left to fill in in its subfields. -/
theorem fillOperators_eq_self_of_repeaterConfigOf (h : repeaterConfigOf config = .ok c)
    (hsub : ∀ sub ∈ Obj.getList config "subfields", ∀ (index : Int) f,
      ofValue? sub index = .ok (some f) → f.fillOperators = f)
    (hrule : ∀ rule ∈ Obj.getList config "rules", ¬VisibilityRule.HasBlankOperator rule) :
    c.fillOperators = c := by
  obtain ⟨limits, texts, fields, rules, -, -, hfields, hrules, hc⟩ := exists_of_repeaterConfigOf h
  refine Obj.fillOperators_eq_self
    (hc.members ("subfields", .list (fields.map toValue)) (by simp [repeaterMembers]))
    (hc.members ("rules", .list (rules.map VisibilityRule.toValue)) (by simp [repeaterMembers]))
    ?_ ?_
  · rw [List.forall_mem_map]
    intro f hf
    obtain ⟨sub, hmem, index, hread⟩ := exists_of_mem_subfieldsOf hfields hf
    rw [← f.toValue_fillOperators, hsub sub hmem index f hread]
  · rw [List.forall_mem_map]
    intro r hr
    obtain ⟨rule, hmem, o, ho, hread⟩ := VisibilityRule.exists_of_listOf hrules hr
    have hne := VisibilityRule.operator_ne_empty ho hread (hrule rule hmem)
    rw [← r.toValue_fillOperator, VisibilityRule.fillOperator_eq_self hne]

theorem nodup_parts (kind : FieldKind) : (kind.parts.map (·.1)).Nodup := by
  cases kind <;> decide

theorem plainNormalConfig_of_no_reference (huser : kind ≠ .relationUser)
    (hrelation : kind ≠ .relation) (config : Obj) : plainNormalConfig kind config =
      if kind.hasChoices then choicesNormalConfig config
      else .ok (partsNormalConfig kind.parts config) := by
  cases kind <;> first | contradiction | rfl

/-- The strict configuration of a field that is no repeater is read as it is. -/
theorem plainNormalConfig_again (h : plainNormalConfig kind config = .ok c) :
    plainNormalConfig kind c = .ok c := by
  by_cases huser : kind = .relationUser
  · subst huser
    exact UserReference.normalConfig_again h
  by_cases hrelation : kind = .relation
  · subst hrelation
    exact Relation.normalConfig_again h
  rw [plainNormalConfig_of_no_reference huser hrelation] at h ⊢
  split at h
  · next hchoices => rw [if_pos hchoices, choicesNormalConfig_again h]
  · next hchoices =>
    rw [if_neg hchoices, ← Except.ok.inj h, partsNormalConfig_again (nodup_parts kind)]

/-! ### Fields -/

/-- Whether a declaration of a repeater, or one of the declarations of repeaters in it, has a rule
with a blank operator. -/
inductive HoldsBlankOperator : Value → Prop
  | rule {raw rule : Value} {o : Obj} : raw.asObj? = some o →
      FieldKind.ofValue (Obj.get o "type") = .ok .repeater →
      rule ∈ Obj.getList (fieldConfig raw) "rules" → VisibilityRule.HasBlankOperator rule →
      HoldsBlankOperator raw
  | subfield {raw sub : Value} {o : Obj} : raw.asObj? = some o →
      FieldKind.ofValue (Obj.get o "type") = .ok .repeater →
      sub ∈ Obj.getList (fieldConfig raw) "subfields" → HoldsBlankOperator sub →
      HoldsBlankOperator raw

variable {raw : Value}

/-- A declaration that is read has a header and a configuration. -/
theorem exists_of_ofValue? (h : ofValue? raw index = .ok (some f)) :
    ∃ o, raw.asObj? = some o ∧ f.IsHeader ∧ FieldKind.ofValue (Obj.get o "type") = .ok f.kind ∧
      normalConfig f.kind (fieldConfig raw) = .ok f.config := by
  cases ho : raw.asObj? with
  | none =>
    rw [ofValue?] at h
    split at h
    · cases h
    · simp_all
  | some o =>
    rw [ofValue?_eq ho, Outcome.bind_eq_ok_iff] at h
    obtain ⟨header, hheader, h⟩ := h
    cases header with
    | none => cases h
    | some header =>
      simp only [Outcome.bind_eq_ok_iff, Outcome.pure_eq_ok_iff, Option.some.injEq] at h
      obtain ⟨c, hc, rfl⟩ := h
      obtain ⟨hstrict, hkind, -⟩ := isHeader_of_header? hheader
      exact ⟨o, rfl, hstrict.of_config, hkind, hc⟩

/-- A field whose configuration is read again with its operators filled in is so itself. -/
theorem ofValue?_toValue (hheader : f.IsHeader)
    (hconfig : normalConfig f.kind f.config = .ok f.fillOperators.config) (index : Int) :
    ofValue? f.toValue index = .ok (some f.fillOperators) := by
  have ho : f.toValue.asObj? = some f.toObj := rfl
  have hsame : { f with config := f.fillOperators.config } = f.fillOperators := by
    rw [fillOperators]
    split <;> rfl
  rw [ofValue?_eq ho, hheader.header?_toObj index, Outcome.ok_bind]
  simp only [fieldConfig_toValue, hconfig, Outcome.ok_bind, hsame]
  rfl

/-- What reading a field again does to it, and when nothing. The induction goes by the weight of the
declaration, since the subfields of a repeater are declarations inside its configuration. -/
theorem ofValue?_again (h : ofValue? raw index = .ok (some f)) :
    (∀ index : Int, ofValue? f.toValue index = .ok (some f.fillOperators)) ∧
      (¬HoldsBlankOperator raw → f.fillOperators = f) := by
  induction hweight : raw.weight using Nat.strongRecOn generalizing raw index f with
  | ind weight ih =>
    subst hweight
    obtain ⟨o, ho, hheader, hkind, hconfig⟩ := exists_of_ofValue? h
    by_cases hrepeater : f.kind = .repeater
    · have hlight : ∀ sub ∈ Obj.getList (fieldConfig raw) "subfields", sub.weight < raw.weight := by
        intro sub hsub
        have hitem := Value.weight_lt_of_mem hsub
        have hitems := Value.itemsWeight_getList_le (fieldConfig raw) "subfields"
        have hgiven := membersWeight_fieldConfig_lt ho
        omega
      rw [hrepeater] at hconfig hkind
      have hsub : ∀ sub ∈ Obj.getList (fieldConfig raw) "subfields", ∀ (index : Int) f,
          ofValue? sub index = .ok (some f) →
            (∀ index : Int, ofValue? f.toValue index = .ok (some f.fillOperators)) ∧
              (¬HoldsBlankOperator sub → f.fillOperators = f) :=
        fun sub hsub index f hread => ih _ (hlight sub hsub) hread rfl
      constructor
      · have hagain := repeaterConfigOf_again hconfig fun sub hmem index f hread =>
          (hsub sub hmem index f hread).1
        refine ofValue?_toValue hheader ?_
        rw [fillOperators_of_repeater hrepeater, hrepeater]
        exact hagain
      · intro hblank
        rw [fillOperators_of_repeater hrepeater,
          fillOperators_eq_self_of_repeaterConfigOf hconfig
            (fun sub hmem index f hread => (hsub sub hmem index f hread).2 fun hholds =>
              hblank (.subfield ho hkind hmem hholds))
            fun rule hmem hrule => hblank (.rule ho hkind hmem hrule)]
    · refine ⟨ofValue?_toValue hheader ?_, fun _ => fillOperators_of_ne hrepeater⟩
      rw [normalConfig_of_ne hrepeater] at hconfig ⊢
      rw [fillOperators_of_ne hrepeater, plainNormalConfig_again hconfig]

/-- Whatever a field has been read of: reading it again, at whatever place, fills in the operators
that have been left empty and changes nothing else; what is read then is read as it is from then on.
If no operator is blank, nothing is left to fill in. -/
theorem read_again (h : ofValue? raw index = .ok (some f)) :
    (∀ index : Int, ofValue? f.toValue index = .ok (some f.fillOperators)) ∧
      (∀ index : Int, ofValue? f.fillOperators.toValue index = .ok (some f.fillOperators)) ∧
      (¬HoldsBlankOperator raw → ∀ index : Int, ofValue? f.toValue index = .ok (some f)) := by
  obtain ⟨hagain, hclear⟩ := ofValue?_again h
  refine ⟨hagain, fun index => ?_, fun hblank index => ?_⟩
  · have hthird := (ofValue?_again (hagain 0)).1 index
    rwa [fillOperators_fillOperators] at hthird
  · rw [hagain index, hclear hblank]

/-! ### A repeater with one rule -/

/-- A declaration of a repeater, in an older shape, with a rule that has the given operator. -/
def ruledDeclaration (operator : String) : Value :=
  .obj [("fieldKey", .str "Rows"), ("type", .str "Repeater"), ("options", .obj [
    ("rules", .list [.obj [("if_key", .str "kind"), ("operator", .str operator),
      ("targetKeys", .str "Note")]]), ("min_rows", .str "2")])]

/-- The field that is read of it, whose rule has the given operator. -/
def ruledField (operator : String) : FieldDef where
  id := .null
  key := "rows"
  label := "rows"
  kind := .repeater
  required := false
  helpText := ""
  orderIndex := 0
  config := [
    ("rules", .list [.obj [("ifKey", .str "kind"), ("op", .str operator), ("value", .null),
      ("action", .str "show"), ("targets", .list [.str "note"])]]),
    ("minRows", .int 2), ("maxRows", .null), ("addLabel", .str "Add row"),
    ("layout", .str "cards"), ("maxDepth", .int 2), ("rowLabelTemplate", .str ""),
    ("subfields", .list [])]

theorem read_blank : ofValue? (ruledDeclaration " ") 0 = .ok (some (ruledField "")) := by
  cbv

theorem read_missing : ofValue? (ruledDeclaration "") 0 = .ok (some (ruledField "equals")) := by
  cbv

theorem fillOperators_ruledField : (ruledField "").fillOperators = ruledField "equals" := by
  cbv

theorem not_holdsBlankOperator_missing : ¬HoldsBlankOperator (ruledDeclaration "") := by
  intro h
  cases h with
  | rule ho hkind hmem hblank =>
    have hrules : Obj.getList (fieldConfig (ruledDeclaration "")) "rules" =
        [.obj [("if_key", .str "kind"), ("operator", .str ""), ("targetKeys", .str "Note")]] := rfl
    rw [hrules, List.mem_singleton] at hmem
    subst hmem
    obtain ⟨o, operator, ho, hoperator, hne, -⟩ := hblank
    obtain rfl := Option.some.inj ho
    exact hne (Value.str.inj hoperator).symm
  | subfield ho hkind hmem hholds =>
    have hsubfields : Obj.getList (fieldConfig (ruledDeclaration "")) "subfields" = [] := rfl
    rw [hsubfields] at hmem
    contradiction

/-- A blank operator is trimmed when the field is read first and filled in when it is read again; a
missing one is filled in at once. -/
theorem ruledField_read_again :
    (ofValue? (ruledDeclaration " ") 0 = .ok (some (ruledField "")) ∧
      ofValue? (ruledField "").toValue 1 = .ok (some (ruledField "equals")) ∧
      ofValue? (ruledField "equals").toValue 2 = .ok (some (ruledField "equals"))) ∧
    ofValue? (ruledDeclaration "") 0 = .ok (some (ruledField "equals")) ∧
      ¬HoldsBlankOperator (ruledDeclaration "") ∧
      ofValue? (ruledField "equals").toValue 1 = .ok (some (ruledField "equals")) := by
  obtain ⟨hsecond, hthird, -⟩ := read_again read_blank
  obtain ⟨-, -, hclear⟩ := read_again read_missing
  rw [fillOperators_ruledField] at hsecond hthird
  exact ⟨⟨read_blank, hsecond 1, hthird 2⟩, read_missing, not_holdsBlankOperator_missing,
    hclear not_holdsBlankOperator_missing 1⟩

end FieldDef

end ContentEngine
