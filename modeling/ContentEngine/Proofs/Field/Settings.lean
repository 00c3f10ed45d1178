import ContentEngine.Proofs.ContentType.Field
import ContentEngine.Proofs.Field.Readable

/-!
# Settings that are read again

The settings of a field are brought to their strict form whenever they are read, so that what one
reading has left is what the next one starts from. For each kind of settings one lemma says what
the second reading makes of them: choices, parts, references, limits and texts stay as they are,
since every current key is consulted before the older ones that it replaces. One text does not stay:
an operator that consists of blanks is trimmed to the empty text, which the second reading takes for
a missing operator (`VisibilityRule.ofValue?_toValue`).
-/

namespace ContentEngine

/-! ### Writing what is there already -/

namespace Obj

/-- Writing members that an object holds already changes nothing. -/
theorem merge_eq_self {o other : Obj} (h : ∀ member ∈ other, get? o member.1 = some member.2) :
    merge o other = o := by
  induction other with
  | nil => rfl
  | cons member rest ih =>
    rw [List.forall_mem_cons] at h
    have hset : set o member.1 member.2 = o := Table.set_of_get? h.1
    have hmerge : merge o (member :: rest) = merge (set o member.1 member.2) rest := rfl
    rw [hmerge, hset, ih h.2]

theorem merge_append (o first second : Obj) :
    merge o (first ++ second) = merge (merge o first) second :=
  List.foldl_append

end Obj

/-! ### Rules -/

namespace VisibilityRule

variable {r : VisibilityRule} {rules : List VisibilityRule} {o : Obj} {raw : Value}
variable {raws targets : List Value} {keys : List String}

/-- A rule whose operator, if it has been left empty, is the one of rules without an operator. -/
def fillOperator (r : VisibilityRule) : VisibilityRule :=
  { r with operator := if r.operator = "" then "equals" else r.operator }

/-- Whether the keys of a rule are in their one form and nothing is left to trim. -/
structure IsStrict (r : VisibilityRule) : Prop where
  isKey : IsKey r.ifKey
  trim_operator : trim r.operator = r.operator
  targets : ∀ key ∈ r.targets, IsKey key ∧ key ≠ ""

theorem targets_of_targetKeys (h : targetKeys targets = .ok keys) :
    ∀ key ∈ keys, IsKey key ∧ key ≠ "" := by
  induction targets generalizing keys with
  | nil =>
    rw [targetKeys, Except.ok.injEq] at h
    simp [← h]
  | cons target rest ih =>
    rw [targetKeys] at h
    split at h
    · exact ih h
    · simp only [Outcome.bind_eq_ok_iff, Outcome.pure_eq_ok_iff] at h
      obtain ⟨key, hkey, others, hothers, rfl⟩ := h
      split
      · exact ih hothers
      · next hne =>
        exact List.forall_mem_cons.mpr ⟨⟨isKey_of_snakeCase hkey, hne⟩, ih hothers⟩

theorem targetKeys_map_str (h : ∀ key ∈ keys, IsKey key ∧ key ≠ "") :
    targetKeys (keys.map .str) = .ok keys := by
  induction keys with
  | nil => rfl
  | cons key rest ih =>
    rw [List.forall_mem_cons] at h
    have hnull : ¬(Value.str key).isNull = true := by simp [Value.isNull]
    rw [List.map_cons, targetKeys, if_neg hnull, Value.snakeCase_str_of_isKey h.1.1,
      Outcome.ok_bind, ih h.2, Outcome.ok_bind, if_neg h.1.2]
    rfl

theorem targetKeys_cons_str_eq_ok_iff {name : String} (hname : snakeCase name ≠ "") :
    targetKeys (.str name :: targets) = .ok keys ↔
      ∃ others, targetKeys targets = .ok others ∧ keys = snakeCase name :: others := by
  have hnull : ¬(Value.str name).isNull = true := by simp [Value.isNull]
  rw [targetKeys, if_neg hnull, Value.snakeCase_str, Outcome.ok_bind]
  simp only [Outcome.bind_eq_ok_iff, Outcome.pure_eq_ok_iff, if_neg hname, eq_comm (b := keys)]

/-- One name can stand for another among the targets of a rule exactly if both spell the same. -/
theorem targetKeys_replace_iff {a b : String} {before : List Value} (ha : snakeCase a ≠ "")
    (hb : snakeCase b ≠ "") (h : targetKeys (before ++ .str a :: targets) = .ok keys) :
    targetKeys (before ++ .str b :: targets) = .ok keys ↔ snakeCase a = snakeCase b := by
  induction before generalizing keys with
  | nil =>
    rw [List.nil_append, targetKeys_cons_str_eq_ok_iff ha] at h
    obtain ⟨others, hothers, rfl⟩ := h
    simp only [List.nil_append, targetKeys_cons_str_eq_ok_iff hb, hothers, Except.ok.injEq,
      exists_eq_left', List.cons.injEq, and_true]
  | cons target rest ih =>
    rw [List.cons_append, targetKeys] at h ⊢
    by_cases hnull : target.isNull = true
    · rw [if_pos hnull] at h ⊢
      exact ih h
    · rw [if_neg hnull] at h ⊢
      simp only [Outcome.bind_eq_ok_iff, Outcome.pure_eq_ok_iff] at h ⊢
      obtain ⟨key, hkey, others, hothers, rfl⟩ := h
      -- the key of this target stands in front of both lists, or of neither
      have hsame {found : List String} : (if key = "" then found else key :: found) =
          (if key = "" then others else key :: others) ↔ found = others := by
        split
        · rfl
        · rw [List.cons.injEq, and_iff_right rfl]
      simp only [hkey, Except.ok.injEq, exists_eq_left', hsame, exists_eq_right]
      exact ih hothers

/-- What an object gives as the targets of a rule: a list, or a single text. -/
def givenTargets (o : Obj) : List Value :=
  match Obj.getEither o "targets" "targetKeys" with
  | .str key => [.str key]
  | other => other.asList?.getD []

theorem targetKeys_givenTargets (h : ofObj o = .ok r) :
    targetKeys (givenTargets o) = .ok r.targets := by
  simp only [ofObj, Outcome.bind_eq_ok_iff, Outcome.pure_eq_ok_iff] at h
  obtain ⟨action, -, ifKey, -, operator, -, targets, htargets, rfl⟩ := h
  exact htargets

theorem ifKey_of_ofObj {name : String} (h : ofObj o = .ok r)
    (hname : Obj.getEither o "ifKey" "if_key" = .str name) : r.ifKey = snakeCase name := by
  simp only [ofObj, hname, Value.snakeCase_str, Outcome.bind_eq_ok_iff,
    Outcome.pure_eq_ok_iff] at h
  obtain ⟨action, -, ifKey, hifKey, operator, -, targets, -, rfl⟩ := h
  exact (Except.ok.inj hifKey).symm

theorem isStrict_of_ofObj (h : ofObj o = .ok r) : r.IsStrict := by
  simp only [ofObj, Outcome.bind_eq_ok_iff, Outcome.pure_eq_ok_iff] at h
  obtain ⟨action, -, ifKey, hifKey, operator, -, targets, htargets, rfl⟩ := h
  exact ⟨isKey_of_snakeCase hifKey, trim_trim operator, targets_of_targetKeys htargets⟩

/-- What is read of a list of rules is read of its items. -/
theorem exists_of_listOf (h : listOf raws = .ok rules) (hr : r ∈ rules) :
    ∃ raw ∈ raws, ∃ o, raw.asObj? = some o ∧ ofObj o = .ok r := by
  simp only [listOf, Outcome.bind_eq_ok_iff, Outcome.pure_eq_ok_iff] at h
  obtain ⟨found, hfound, rfl⟩ := h
  obtain ⟨_, hmem, rfl⟩ := List.mem_filterMap.mp hr
  obtain ⟨raw, hraw, hread⟩ := Outcome.exists_of_mem_mapM hfound hmem
  rw [ofValue?] at hread
  split at hread
  · next o ho =>
    simp only [Outcome.bind_eq_ok_iff, Outcome.pure_eq_ok_iff] at hread
    obtain ⟨rule, hrule, hsome⟩ := hread
    obtain rfl : rule = r := Option.some.inj hsome
    exact ⟨raw, hraw, o, ho, hrule⟩
  · cases hread

theorem isStrict_of_listOf (h : listOf raws = .ok rules) : ∀ r ∈ rules, r.IsStrict := by
  intro r hr
  obtain ⟨raw, -, o, -, ho⟩ := exists_of_listOf h hr
  exact isStrict_of_ofObj ho

/-- A strict rule is read again as it is, but for an empty operator. -/
theorem ofValue?_toValue (h : r.IsStrict) : ofValue? r.toValue = .ok (some r.fillOperator) := by
  obtain ⟨ifKey, operator, value, action, keys⟩ := r
  obtain ⟨hifKey, htrim, htargets⟩ := h
  have haction : ((Value.str action.text).orElse (.str "show")).text = .ok action.text := by
    cases action <;> rfl
  have hhide : (if lowerText (trim action.text) = "hide" then RuleAction.hide else .reveal) =
      action := by
    cases action <;> decide
  have hoperator : ((Value.str operator).orElse (.str "equals")).text =
      .ok (if operator = "" then "equals" else operator) := by
    rw [Value.orElse, Value.truthy]
    split <;> simp_all [Value.text]
  have hfilled : trim (if operator = "" then "equals" else operator) =
      if operator = "" then "equals" else operator := by
    split
    · decide
    · exact htrim
  have hread : ofObj [("ifKey", .str ifKey), ("op", .str operator), ("value", value),
      ("action", .str action.text), ("targets", .ofTexts keys)] = do
        let action ← ((Value.str action.text).orElse (.str "show")).text
        let ifKey ← (Value.str ifKey).snakeCase
        let operator ← ((Value.str operator).orElse (.str "equals")).text
        let targets ← targetKeys (keys.map .str)
        return ⟨ifKey, trim operator, value,
          if lowerText (trim action) = "hide" then .hide else .reveal, targets⟩ := rfl
  rw [toValue, ofValue?, Value.asObj?]
  simp only [hread, haction, Value.snakeCase_str_of_isKey hifKey, hoperator,
    targetKeys_map_str htargets, Outcome.ok_bind, hhide, hfilled]
  rfl

theorem listOf_toValue (h : ∀ r ∈ rules, r.IsStrict) :
    listOf (rules.map toValue) = .ok (rules.map fillOperator) := by
  have hmap : (rules.map toValue).mapM ofValue? = .ok (rules.map fun r => some r.fillOperator) := by
    rw [List.mapM_map]
    exact Outcome.mapM_eq_ok_map fun r hr => ofValue?_toValue (h r hr)
  rw [listOf, hmap, Outcome.ok_bind, List.filterMap_map]
  exact congrArg _ (List.filterMap_eq_map ▸ rfl)

theorem fillOperator_eq_self (h : r.operator ≠ "") : r.fillOperator = r := by
  rw [fillOperator, if_neg h]

/-- Whether a rule gives a text of blanks as its operator. The empty text counts as none given. -/
def HasBlankOperator (raw : Value) : Prop :=
  ∃ o operator, raw.asObj? = some o ∧ Obj.getEither o "op" "operator" = .str operator ∧
    operator ≠ "" ∧ isBlankText operator = true

/-- Only a text of blanks is read as an empty operator. -/
theorem operator_ne_empty (ho : raw.asObj? = some o) (h : ofObj o = .ok r)
    (hblank : ¬HasBlankOperator raw) : r.operator ≠ "" := by
  simp only [ofObj, Outcome.bind_eq_ok_iff, Outcome.pure_eq_ok_iff] at h
  obtain ⟨action, -, ifKey, -, operator, hoperator, targets, -, rfl⟩ := h
  intro hempty
  have hall := isBlankText_of_trim hempty
  rw [Value.orElse] at hoperator
  split at hoperator
  · next htruthy =>
    by_cases htext : ∃ text, Obj.getEither o "op" "operator" = .str text
    · obtain ⟨text, htext⟩ := htext
      rw [htext] at htruthy hoperator
      obtain rfl : text = operator := Except.ok.inj hoperator
      exact hblank ⟨o, text, ho, htext, by simpa [Value.truthy] using htruthy, hall⟩
    · have hnot := Value.isBlankText_text (fun text heq => htext ⟨text, heq⟩) hoperator
      rw [hall] at hnot
      contradiction
  · obtain rfl : "equals" = operator := Except.ok.inj hoperator
    contradiction

end VisibilityRule

/-! ### Choices and parts -/

theorem Choice.listOf_toValue (choices : List Choice) :
    listOf (.list (choices.map toValue)) = .ok choices := by
  have hread : ∀ c ∈ choices, ofValue? c.toValue = .ok (some c) := fun _ _ => rfl
  have hmap : (choices.map toValue).mapM ofValue? = .ok (choices.map some) := by
    rw [List.mapM_map]
    exact Outcome.mapM_eq_ok_map hread
  rw [listOf, Value.asList?, Option.getD_some, hmap, Outcome.ok_bind, List.filterMap_map]
  exact congrArg _ (List.filterMap_some)

namespace FieldDef

variable {config c : Obj}

/-- Choices in strict form are read as they are. -/
theorem choicesNormalConfig_of_get? (choices : List Choice)
    (hchoices : Obj.get? c "choices" = some (.list (choices.map Choice.toValue)))
    (hoptions : Obj.get? c "options" = none) : choicesNormalConfig c = .ok c := by
  have hset : Obj.set c "choices" (.list (choices.map Choice.toValue)) = c :=
    Table.set_of_get? hchoices
  have herase : Obj.erase c "options" = c := Table.erase_of_get? hoptions
  have hgiven : (Obj.get c "choices").orIfNull (Obj.get c "options") =
      .list (choices.map Choice.toValue) := by
    rw [Obj.get_of_get?_eq_some hchoices]
    rfl
  rw [choicesNormalConfig, hgiven, Choice.listOf_toValue, Outcome.ok_bind, hset, herase]
  rfl

theorem choicesNormalConfig_again (h : choicesNormalConfig config = .ok c) :
    choicesNormalConfig c = .ok c := by
  simp only [choicesNormalConfig, Outcome.bind_eq_ok_iff, Outcome.pure_eq_ok_iff] at h
  obtain ⟨choices, -, rfl⟩ := h
  refine choicesNormalConfig_of_get? choices ?_ ?_
  · rw [Obj.get?_erase, if_neg (by decide), Obj.get?_set, if_pos rfl]
  · rw [Obj.get?_erase, if_pos rfl]

theorem exists_partSetting (current : Obj) (key label : String) :
    ∃ shown text, partSetting current key label =
        .obj [("show", .bool shown), ("label", .str text)] ∧ (text = "" → label = "") := by
  refine ⟨_, _, rfl, ?_⟩
  split
  · split
    · exact fun hempty => hempty
    · next hne => exact fun hempty => absurd hempty hne
  · exact fun hempty => hempty

theorem partSetting_of_get? {key text : String} {shown : Bool} (label : String)
    (h : Obj.get? c key = some (.obj [("show", .bool shown), ("label", .str text)])) :
    partSetting c key label =
      .obj [("show", .bool shown), ("label", .str (if text = "" then label else text))] := by
  rw [partSetting, Obj.getObj, Obj.get_of_get?_eq_some h]
  rfl

/-- The setting of a part is read again as it is: its label is empty only if the usual one is. -/
theorem partSetting_again {current : Obj} {key label : String}
    (h : Obj.get? c key = some (partSetting current key label)) :
    partSetting c key label = partSetting current key label := by
  obtain ⟨shown, text, hsetting, hempty⟩ := exists_partSetting current key label
  rw [hsetting] at h ⊢
  rw [partSetting_of_get? label h]
  split
  · next htext => rw [hempty htext, htext]
  · rfl

/-- The settings of all parts. -/
def partSettings (parts : List (String × String)) (current : Obj) : Obj :=
  parts.map fun part => (part.1, partSetting current part.1 part.2)

theorem partsNormalConfig_eq {parts : List (String × String)} (h : ¬parts.isEmpty = true)
    (config : Obj) : partsNormalConfig parts config =
      Obj.set config "subfields" (.obj (partSettings parts (Obj.getObj config "subfields"))) := by
  rw [partsNormalConfig, if_neg h]
  rfl

theorem partSettings_again {parts : List (String × String)} (hnodup : (parts.map (·.1)).Nodup)
    (current : Obj) :
    partSettings parts (partSettings parts current) = partSettings parts current := by
  have hkeys : (Obj.keys (partSettings parts current)).Nodup := by
    rw [partSettings, Obj.keys, Table.keys, List.map_map]
    exact hnodup
  refine List.map_congr_left fun part hpart => ?_
  have hmem : (part.1, partSetting current part.1 part.2) ∈ partSettings parts current :=
    List.mem_map_of_mem hpart
  rw [partSetting_again ((Table.mem_iff_get? hkeys).mp hmem)]

theorem partsNormalConfig_again {parts : List (String × String)}
    (hnodup : (parts.map (·.1)).Nodup) (config : Obj) :
    partsNormalConfig parts (partsNormalConfig parts config) = partsNormalConfig parts config := by
  by_cases hempty : parts.isEmpty = true
  · simp only [partsNormalConfig, if_pos hempty]
  · have hget (settings : Obj) :
        Obj.getObj (Obj.set config "subfields" (.obj settings)) "subfields" = settings := by
      rw [Obj.getObj, Obj.get_set_self]
      rfl
    simp only [partsNormalConfig_eq hempty, hget, partSettings_again hnodup]
    exact Table.set_of_get? (Table.get?_set_self _ _ _)

end FieldDef

/-! ### References -/

/-- A text is read under its current key also if it is empty, since the older key is not there. -/
theorem Obj.presentText_firstTruthy {o : Obj} {key other text : String}
    (hkey : get o key = .str text) (hother : get? o other = none) :
    (firstTruthy o [key, other]).presentText = .ok text := by
  have hnull : get o other = .null := by rw [get, hother]; rfl
  rw [firstTruthy, hkey]
  split
  · exact Value.presentText_str text
  · next hempty =>
    have htext : text = "" := by simpa [Value.truthy] using hempty
    rw [firstTruthy, hnull, htext]
    rfl

namespace UserReference

/-- Whether a configuration holds some settings in their current form and none in an older one. -/
structure IsNormal (r : UserReference) (config : Obj) : Prop where
  trim_roleFilter : trim r.roleFilter = r.roleFilter
  members : ∀ member ∈ r.toObj, Obj.get? config member.1 = some member.2
  no_role : Obj.get? config "role_filter" = none
  no_active : Obj.get? config "only_active" = none

variable {r : UserReference} {config c : Obj}

theorem ofConfig_eq_ok_iff : ofConfig config = .ok r ↔
    (Obj.get config "display").isHashable = true ∧
      ∃ role, (Obj.firstTruthy config ["roleFilter", "role_filter"]).presentText = .ok role ∧
        ⟨(Obj.get config "multiple").truthy, .ofText ((Obj.get config "display").asText?.getD ""),
          trim role, (Obj.getEither config "onlyActive" "only_active").isNull ||
            (Obj.getEither config "onlyActive" "only_active").truthy⟩ = r := by
  rw [ofConfig]
  cases (Obj.get config "display").isHashable with
  | false => simp
  | true =>
    simp only [Bool.not_true, Bool.false_eq_true, if_false, Outcome.bind_eq_ok_iff,
      Outcome.pure_eq_ok_iff, true_and]

/-- The settings that are read from a configuration are written into it in their current form. -/
theorem isNormal_of_ofConfig (h : ofConfig config = .ok r) :
    r.IsNormal (Obj.erase (Obj.erase (Obj.merge config r.toObj) "role_filter") "only_active") := by
  have hnodup : (Obj.keys r.toObj).Nodup := by simp [toObj, Obj.keys, Table.keys]
  have hcurrent : ∀ key ∈ Obj.keys r.toObj, key ≠ "only_active" ∧ key ≠ "role_filter" := by
    simp [toObj, Obj.keys, Table.keys]
  refine ⟨?_, fun member hmember => ?_, ?_, ?_⟩
  · obtain ⟨-, role, -, rfl⟩ := ofConfig_eq_ok_iff.mp h
    exact trim_trim role
  · obtain ⟨hactive, hrole⟩ := hcurrent member.1 (List.mem_map_of_mem hmember)
    rw [Obj.get?_erase, if_neg hactive, Obj.get?_erase, if_neg hrole, Obj.get?_merge _ hnodup,
      Obj.get?, (Table.mem_iff_get? hnodup).mp hmember, Option.some_or]
  · rw [Obj.get?_erase, if_neg (by decide), Obj.get?_erase, if_pos rfl]
  · rw [Obj.get?_erase, if_pos rfl]

/-- Settings in their current form are read as they are. -/
theorem IsNormal.ofConfig_eq (h : r.IsNormal c) : ofConfig c = .ok r := by
  have hget (key : String) (v : Value) (hmem : (key, v) ∈ r.toObj) : Obj.get c key = v :=
    Obj.get_of_get?_eq_some (h.members _ hmem)
  have hdisplay : Obj.get c "display" = .str r.display.text := hget _ _ (by simp [toObj])
  have hactive : Obj.getEither c "onlyActive" "only_active" = .bool r.onlyActive := by
    rw [Obj.getEither, h.members ("onlyActive", .bool r.onlyActive) (by simp [toObj])]
  have hfilter : Obj.get c "roleFilter" = .str r.roleFilter := hget _ _ (by simp [toObj])
  have hrole := Obj.presentText_firstTruthy hfilter h.no_role
  refine ofConfig_eq_ok_iff.mpr ⟨by rw [hdisplay]; rfl, r.roleFilter, hrole, ?_⟩
  have hshown : UserDisplay.ofText r.display.text = r.display := by
    cases r.display <;> rfl
  have hmultiple : Obj.get c "multiple" = .bool r.multiple := hget _ _ (by simp [toObj])
  rw [hmultiple, hdisplay, hactive, h.trim_roleFilter, Value.asText?, Option.getD_some, hshown]
  rfl

theorem normalConfig_again (h : normalConfig config = .ok c) : normalConfig c = .ok c := by
  simp only [normalConfig, Outcome.bind_eq_ok_iff, Outcome.pure_eq_ok_iff] at h
  obtain ⟨r, hr, rfl⟩ := h
  have hnormal := isNormal_of_ofConfig hr
  generalize Obj.erase (Obj.erase (Obj.merge config r.toObj) "role_filter") "only_active" = c
    at hnormal
  have hrole : Obj.erase c "role_filter" = c := Table.erase_of_get? hnormal.no_role
  have hactive : Obj.erase c "only_active" = c := Table.erase_of_get? hnormal.no_active
  rw [normalConfig, hnormal.ofConfig_eq, Outcome.ok_bind, Obj.merge_eq_self hnormal.members, hrole,
    hactive]
  rfl

end UserReference

namespace Relation

variable {config c : Obj} {vs : List Value} {slug : String}

theorem firstSlug?_append (vs ws : List Value) : firstSlug? (vs ++ ws) =
    firstSlug? vs >>= fun found => found.elim (firstSlug? ws) fun slug => .ok (some slug) := by
  induction vs with
  | nil => rfl
  | cons v rest ih =>
    rw [List.cons_append, firstSlug?, firstSlug?, bind_assoc]
    refine Outcome.bind_congr fun found _ => ?_
    cases found with
    | none => exact ih
    | some slug =>
      simp only
      split
      · exact ih
      · rfl

theorem ne_empty_of_firstSlug? (h : firstSlug? vs = .ok (some slug)) : slug ≠ "" := by
  induction vs with
  | nil => cases h
  | cons v rest ih =>
    rw [firstSlug?, Outcome.bind_eq_ok_iff] at h
    obtain ⟨found, -, h⟩ := h
    cases found with
    | none => exact ih h
    | some named =>
      simp only at h
      split at h
      · exact ih h
      · next hne =>
        obtain rfl : named = slug := Option.some.inj (Outcome.pure_eq_ok_iff.mp h)
        exact hne

/-- The keys of the object `relation` under which a target may be named. They are asked first. -/
def relationKeys : List String :=
  ["slug", "content_type_slug", "contentType", "content_type", "target"]

/-- Where a configuration by itself may name the target. -/
theorem candidates_obj (config : Obj) : candidates (.obj [("config", .obj config)]) =
    relationKeys.map (Obj.get (Obj.getObj config "relation")) ++ Obj.get config "relatedType" ::
      (["contentType", "targetType", "target"].map (Obj.get config) ++ [.null, .null]) := by
  have hconfig : fieldConfig (.obj [("config", .obj config)]) = config :=
    fieldConfig_of_config rfl rfl rfl
  rw [candidates, hconfig]
  rfl

/-- A target that has been written under its one key is found again: what is asked before that key
names the same target or none. -/
theorem target?_set (h : target? (.obj [("config", .obj config)]) = .ok (some slug)) :
    target? (.obj [("config", .obj (Obj.set config "relatedType" (.str slug)))]) =
      .ok (some slug) := by
  have hne := ne_empty_of_firstSlug? h
  have hrelation : Obj.getObj (Obj.set config "relatedType" (.str slug)) "relation" =
      Obj.getObj config "relation" := by
    rw [Obj.getObj, Obj.get, Obj.get?_set, if_neg (by decide)]
    rfl
  have hself : slugOf? (.str slug) = .ok (some slug) := by
    simp [slugOf?, Value.asObj?, Value.truthy_str hne, Value.text]
  rw [target?, candidates_obj, firstSlug?_append, Outcome.bind_eq_ok_iff] at h ⊢
  obtain ⟨first, hfirst, hrest⟩ := h
  rw [hrelation]
  refine ⟨first, hfirst, ?_⟩
  cases first with
  | some named => exact hrest
  | none =>
    rw [Obj.get_set_self, firstSlug?, hself, Outcome.ok_bind]
    exact if_neg hne

/-- A configuration in strict form is the one that has been given, with the target that it names,
if any, under one key. -/
theorem normalConfig_eq_ok_iff : normalConfig config = .ok c ↔
    ∃ found, target? (.obj [("config", .obj config)]) = .ok found ∧
      c = found.elim config fun slug => Obj.set config "relatedType" (.str slug) := by
  rw [normalConfig, Outcome.bind_eq_ok_iff]
  refine exists_congr fun found => and_congr_right fun _ => ?_
  cases found with
  | none => exact Outcome.pure_eq_ok_iff.trans eq_comm
  | some slug => exact Outcome.pure_eq_ok_iff.trans eq_comm

/-- The strict form of a configuration names the same target. -/
theorem target?_normalConfig (h : normalConfig config = .ok c) :
    target? (.obj [("config", .obj c)]) = target? (.obj [("config", .obj config)]) := by
  obtain ⟨found, htarget, rfl⟩ := normalConfig_eq_ok_iff.mp h
  cases found with
  | none => rfl
  | some slug => exact (target?_set htarget).trans htarget.symm

theorem normalConfig_again (h : normalConfig config = .ok c) : normalConfig c = .ok c := by
  obtain ⟨found, htarget, hc⟩ := normalConfig_eq_ok_iff.mp h
  refine normalConfig_eq_ok_iff.mpr ⟨found, (target?_normalConfig h).trans htarget, ?_⟩
  cases found with
  | none => rfl
  | some slug =>
    obtain rfl := hc
    exact (Table.set_of_get? (Table.get?_set_self _ _ _)).symm

end Relation

/-! ### Repeaters -/

theorem RowLimits.ofNumbers_again (minRows maxRows maxDepth : Option Int) :
    ofNumbers (ofNumbers minRows maxRows maxDepth).minRows
        (ofNumbers minRows maxRows maxDepth).maxRows
        (some (ofNumbers minRows maxRows maxDepth).maxDepth) =
      ofNumbers minRows maxRows maxDepth := by
  simp only [ofNumbers, RowLimits.mk.injEq]
  refine ⟨?_, ?_, ?_⟩
  · cases minRows <;> simp
  · cases minRows <;> cases maxRows <;> simp
  · cases maxDepth with
    | none => rfl
    | some depth =>
      simp only
      split <;> rfl

/-- Whether a configuration holds the settings of a repeater in their current form and no limit in
an older one. -/
structure HoldsSettings (limits : RowLimits) (texts : RowTexts) (subfields rules : List Value)
    (config : Obj) : Prop where
  members : ∀ member ∈ repeaterMembers limits texts subfields rules,
    Obj.get? config member.1 = some member.2
  no_old : ∀ key ∈ oldLimitKeys, Obj.get? config key = none

theorem holdsSettings_merge (config : Obj) (limits : RowLimits) (texts : RowTexts)
    (subfields rules : List Value) : HoldsSettings limits texts subfields rules
      (Obj.merge (oldLimitKeys.foldl Obj.erase config)
        (repeaterMembers limits texts subfields rules)) := by
  have hnodup := nodup_keys_repeaterMembers limits texts subfields rules
  constructor
  · intro member hmember
    rw [Obj.get?_merge _ hnodup, Obj.get?, (Table.mem_iff_get? hnodup).mp hmember, Option.some_or]
  · intro key hkey
    have hnone : Obj.get? (repeaterMembers limits texts subfields rules) key = none := by
      simp only [oldLimitKeys, List.mem_cons, List.not_mem_nil, or_false] at hkey
      rcases hkey with rfl | rfl | rfl <;> rfl
    have herased : Obj.get? (oldLimitKeys.foldl Obj.erase config) key = none := by
      simp only [oldLimitKeys, List.foldl_cons, List.foldl_nil, Obj.get?_erase]
      simp only [oldLimitKeys, List.mem_cons, List.not_mem_nil, or_false] at hkey
      rcases hkey with rfl | rfl | rfl <;> simp
    rw [Obj.get?_merge _ hnodup, hnone, herased]
    rfl

namespace HoldsSettings

variable {limits : RowLimits} {texts : RowTexts} {subfields rules : List Value} {config c : Obj}

theorem get (h : HoldsSettings limits texts subfields rules c) {key : String} {v : Value}
    (hmem : (key, v) ∈ repeaterMembers limits texts subfields rules) : Obj.get c key = v :=
  Obj.get_of_get?_eq_some (h.members _ hmem)

theorem getList (h : HoldsSettings limits texts subfields rules c) {key : String}
    {items : List Value}
    (hmem : (key, .list items) ∈ repeaterMembers limits texts subfields rules) :
    Obj.getList c key = items := by
  rw [Obj.getList, h.get hmem]
  rfl

theorem toInteger (h : HoldsSettings limits texts subfields rules c) {key : String}
    {n? : Option Int} (hmem : (key, .ofInt? n?) ∈ repeaterMembers limits texts subfields rules)
    (other : String) :
    (Obj.getEither c key other).toInteger = .ok n? := by
  rw [Obj.getEither, h.members _ hmem]
  cases n? <;> rfl

/-- Limits that have been read from a configuration are read again as they are. -/
theorem limits_eq (hread : RowLimits.ofConfig config = .ok limits)
    (h : HoldsSettings limits texts subfields rules c) : RowLimits.ofConfig c = .ok limits := by
  have hmin : (Obj.getEither c "minRows" "min_rows").toInteger = .ok limits.minRows :=
    h.toInteger (by simp [repeaterMembers]) _
  have hmax : (Obj.getEither c "maxRows" "max_rows").toInteger = .ok limits.maxRows :=
    h.toInteger (by simp [repeaterMembers]) _
  have hdepth : (Obj.getEither c "maxDepth" "max_depth").toInteger = .ok (some limits.maxDepth) :=
    h.toInteger (by simp [repeaterMembers, Value.ofInt?]) _
  rw [RowLimits.ofConfig, hmin, hmax, hdepth]
  simp only [RowLimits.ofConfig, Outcome.bind_eq_ok_iff, Outcome.pure_eq_ok_iff] at hread
  obtain ⟨minRows, -, maxRows, -, maxDepth, -, rfl⟩ := hread
  exact congrArg _ (RowLimits.ofNumbers_again minRows maxRows maxDepth)

/-- Texts that have been read from a configuration are read again as they are: the label of the
button that adds a row is not empty, and a layout has the name that stands for it. -/
theorem texts_eq (hread : RowTexts.ofConfig config = .ok texts)
    (h : HoldsSettings limits texts subfields rules c) : RowTexts.ofConfig c = .ok texts := by
  have hlayout : Obj.get c "layout" = .str texts.layout.text := h.get (by simp [repeaterMembers])
  have hadd : Obj.get c "addLabel" = .str texts.addLabel := h.get (by simp [repeaterMembers])
  have htemplate : Obj.get c "rowLabelTemplate" = .str texts.labelTemplate :=
    h.get (by simp [repeaterMembers])
  have hne : texts.addLabel ≠ "" := by
    simp only [RowTexts.ofConfig, Outcome.bind_eq_ok_iff, Outcome.pure_eq_ok_iff] at hread
    obtain ⟨layout, -, addLabel, haddLabel, template, -, rfl⟩ := hread
    refine Value.text_ne_empty ?_ haddLabel
    rw [Value.orElse]
    split
    · assumption
    · rfl
  have hlayout' : ((Value.str texts.layout.text).orElse (.str "cards")).text =
      .ok texts.layout.text := by
    cases texts.layout <;> rfl
  have hname : RowLayout.ofText (lowerText (trim texts.layout.text)) = texts.layout := by
    cases texts.layout <;> decide
  have hadd' : ((Value.str texts.addLabel).orElse (.str "Add row")).text = .ok texts.addLabel := by
    rw [Value.orElse, if_pos (Value.truthy_str hne)]
    rfl
  rw [RowTexts.ofConfig, hlayout, hadd, htemplate, hlayout', Outcome.ok_bind, hadd',
    Outcome.ok_bind, Value.presentText_str, Outcome.ok_bind, hname]
  rfl

/-- Writing the settings again changes only the subfields and the rules. -/
theorem merge_eq (h : HoldsSettings limits texts subfields rules c)
    (others otherRules : List Value) :
    Obj.merge (oldLimitKeys.foldl Obj.erase c) (repeaterMembers limits texts others otherRules) =
      Obj.set (Obj.set c "subfields" (.list others)) "rules" (.list otherRules) := by
  have hold : oldLimitKeys.foldl Obj.erase c = c := by
    have herase : ∀ key ∈ oldLimitKeys, Obj.erase c key = c := fun key hkey =>
      Table.erase_of_get? (h.no_old key hkey)
    simp only [oldLimitKeys, List.forall_mem_cons] at herase
    simp only [oldLimitKeys, List.foldl_cons, List.foldl_nil, herase.1, herase.2.1, herase.2.2.1]
  have hsplit : repeaterMembers limits texts others otherRules =
      (repeaterMembers limits texts subfields rules).take 6 ++
        [("subfields", .list others), ("rules", .list otherRules)] := rfl
  rw [hold, hsplit, Obj.merge_append,
    Obj.merge_eq_self fun member hmember => h.members member (List.mem_of_mem_take hmember)]
  rfl

end HoldsSettings

end ContentEngine
