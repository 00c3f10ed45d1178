import ContentEngine.Field.Definition
import ContentEngine.Proofs.Repeater.Prune
import ContentEngine.Proofs.Value.Integer
import ContentEngine.Proofs.Value.Text

/-!
# Declarations that can be read

A declaration of a field is brought to its strict form whenever it is read, and not every
declaration has one. This module says which do, without running the readers: a part of the settings
that is shown as text must have one, a number must not be a misleading text, and what is looked up
in a set must not have parts that can change. `SettingsReadable` puts that together for each kind of
field, and `FieldDef.IsReadable` for a declaration; the two go through each other, as the subfields
of a repeater are declarations.

For each reader one lemma says that it has a result exactly on what is readable
(`FieldDef.hasResult_ofValue?` at the end).
-/

namespace ContentEngine

open Outcome (HasResult hasResult_bind hasResult_bind_iff hasResult_bind_left hasResult_bind_pure
  hasResult_mapM hasResult_pure)

/-! ### Rules -/

namespace VisibilityRule

/-- Whether the rule that a value describes can be read. -/
def IsReadable (raw : Value) : Prop :=
  ∀ o, raw.asObj? = some o →
    (Obj.get o "action").HasText ∧ (Obj.getEither o "ifKey" "if_key").HasText ∧
      (Obj.getEither o "op" "operator").HasText ∧
      ∀ target ∈ (Obj.getEither o "targets" "targetKeys").asList?.getD [], target.HasText

theorem hasResult_targetKeys {targets : List Value} :
    HasResult (targetKeys targets) ↔ ∀ target ∈ targets, target.HasText := by
  induction targets with
  | nil => simp [targetKeys]
  | cons target rest ih =>
    rw [targetKeys, List.forall_mem_cons, ← ih]
    split
    · next hnull =>
      obtain rfl : target = .null := by
        cases target <;> simp_all [Value.isNull]
      simp
    · rw [← Value.hasResult_snakeCase]
      exact hasResult_bind_iff fun _ _ => hasResult_bind_pure

theorem hasResult_ofValue? {raw : Value} : HasResult (ofValue? raw) ↔ IsReadable raw := by
  unfold ofValue? IsReadable
  cases raw.asObj? with
  | none => simp
  | some o =>
    simp only [Option.some.injEq, forall_eq']
    rw [hasResult_bind_pure, ofObj,
      ← Value.hasResult_text_orElse "show", ← Value.hasResult_snakeCase,
      ← Value.hasResult_text_orElse "equals"]
    refine hasResult_bind_iff fun _ _ => hasResult_bind_iff fun _ _ => hasResult_bind_iff fun _ _ =>
      hasResult_bind_pure.trans (hasResult_targetKeys.trans ?_)
    -- a text among the targets counts as a list of one
    split
    · next key hkey => simp [hkey, Value.asList?]
    · rfl

theorem hasResult_listOf {raws : List Value} :
    HasResult (listOf raws) ↔ ∀ raw ∈ raws, IsReadable raw := by
  rw [listOf, hasResult_bind_pure, hasResult_mapM]
  exact forall₂_congr fun _ _ => hasResult_ofValue?

end VisibilityRule

/-! ### Choices -/

namespace Choice

/-- Whether the option that a value describes can be read: an object needs texts for its value and
its label, and of anything else only a number needs one. -/
def IsReadable (item : Value) : Prop :=
  match item.asObj? with
  | some o => ∀ value, firstGiven? o valueKeys = some value →
      value.HasText ∧ ((firstGiven? o labelKeys).getD value).HasText
  | none => item.IsShort

theorem hasResult_ofObj? {o : Obj} : HasResult (ofObj? o) ↔
    ∀ value, firstGiven? o valueKeys = some value →
      value.HasText ∧ ((firstGiven? o labelKeys).getD value).HasText := by
  rw [ofObj?]
  cases firstGiven? o valueKeys with
  | none => simp
  | some value =>
    simp only [Option.some.injEq, forall_eq', ← Value.hasResult_text]
    exact hasResult_bind_iff fun _ _ => hasResult_bind_pure

theorem hasResult_ofValue? {item : Value} : HasResult (ofValue? item) ↔ IsReadable item := by
  cases item with
  | int n =>
    rw [ofValue?, hasResult_bind_pure, Value.hasResult_text,
      Value.hasText_int]
    rfl
  | obj _ | table _ => exact hasResult_ofObj?
  | _ => exact iff_of_true ⟨_, rfl⟩ trivial

theorem hasResult_listOf {raw : Value} :
    HasResult (listOf raw) ↔ ∀ item ∈ raw.asList?.getD [], IsReadable item := by
  rw [listOf, hasResult_bind_pure, hasResult_mapM]
  exact forall₂_congr fun _ _ => hasResult_ofValue?

end Choice

/-! ### References -/

/-- An object under `config` is the configuration of a field that has no older one. -/
theorem fieldConfig_of_config {field : Value} {o config : Obj} (ho : field.asObj? = some o)
    (hconfig : Obj.get o "config" = .obj config) (hoptions : Obj.getObj o "options" = []) :
    fieldConfig field = config := by
  have hread : (Obj.get o "config").toConfig = config := by
    rw [hconfig]
    rfl
  simp only [fieldConfig, ho, hread, hoptions]
  split
  · next hempty => exact (List.isEmpty_iff.mp hempty).symm
  · rfl

namespace UserReference

/-- Whether the settings of a user reference can be read. -/
def IsReadable (config : Obj) : Prop :=
  (Obj.get config "display").isHashable = true ∧
    (Obj.firstTruthy config ["roleFilter", "role_filter"]).HasText

theorem hasResult_ofConfig {config : Obj} :
    HasResult (ofConfig config) ↔ IsReadable config := by
  rw [ofConfig, IsReadable, ← Value.hasResult_presentText]
  cases (Obj.get config "display").isHashable with
  | false => simp
  | true =>
    simp only [true_and]
    exact hasResult_bind_pure

theorem hasResult_normalConfig {config : Obj} :
    HasResult (normalConfig config) ↔ IsReadable config := by
  rw [normalConfig, hasResult_bind_pure, hasResult_ofConfig]

/-- Settings in their current form can be read. -/
theorem isReadable_of_normalConfig {config settings : Obj} (h : normalConfig config = .ok settings) :
    IsReadable settings := by
  simp only [normalConfig, Outcome.bind_eq_ok_iff, Outcome.pure_eq_ok_iff] at h
  obtain ⟨r, -, rfl⟩ := h
  have hnodup : (Obj.keys r.toObj).Nodup := by simp [toObj, Obj.keys, Table.keys]
  have hdisplay : Obj.get (Obj.erase (Obj.erase (Obj.merge config r.toObj) "role_filter")
      "only_active") "display" = .str r.display.text := by
    rw [Obj.get, Obj.get?_erase, Obj.get?_erase, Obj.get?_merge config hnodup]
    rfl
  have hrole : Obj.get (Obj.erase (Obj.erase (Obj.merge config r.toObj) "role_filter")
      "only_active") "roleFilter" = .str r.roleFilter := by
    rw [Obj.get, Obj.get?_erase, Obj.get?_erase, Obj.get?_merge config hnodup]
    rfl
  have hold : Obj.get (Obj.erase (Obj.erase (Obj.merge config r.toObj) "role_filter")
      "only_active") "role_filter" = .null := by
    rw [Obj.get, Obj.get?_erase, Obj.get?_erase]
    rfl
  rw [IsReadable, hdisplay, Obj.firstTruthy, hrole, Obj.firstTruthy, hold, Obj.firstTruthy]
  refine ⟨rfl, ?_⟩
  split
  · exact Value.hasText_str _
  · simp

end UserReference

namespace Relation

/-- The value by which another one names a content type: one of the members of an object, and
anything else itself. -/
def naming (v : Value) : Value :=
  match v.asObj? with
  | some o => Obj.firstTruthy o ["slug", "contentType", "relatedType", "content_type_slug", "id"]
  | none => v

/-- Whether the target of a relation can be read: the first candidate that names one has a text. -/
def IsReadable (config : Obj) : Prop :=
  ∀ named, ((candidates (.obj [("config", .obj config)])).map naming).find? Value.truthy =
    some named → named.HasText

theorem slugOf?_eq (v : Value) :
    slugOf? v = if (naming v).truthy then some <$> (naming v).text else .ok none := by
  rw [slugOf?, naming]
  cases v.asObj? <;> rfl

theorem hasResult_firstSlug? {vs : List Value} : HasResult (firstSlug? vs) ↔
    ∀ named, (vs.map naming).find? Value.truthy = some named → named.HasText := by
  induction vs with
  | nil => simp [firstSlug?]
  | cons v rest ih =>
    rw [firstSlug?, slugOf?_eq, List.map_cons, List.find?_cons]
    cases htruthy : (naming v).truthy with
    | false =>
      rw [if_neg Bool.false_ne_true, Outcome.ok_bind]
      exact ih
    | true =>
      rw [if_pos rfl]
      simp only [Option.some.injEq, forall_eq', ← Value.hasResult_text]
      cases htext : (naming v).text with
      | error e => simp [HasResult, Outcome.bind_eq_ok_iff]
      | ok slug =>
        -- the search ends here, since what counts as present has a text that is not empty
        have hne := Value.text_ne_empty htruthy htext
        simp [hne]

theorem hasResult_normalConfig {config : Obj} :
    HasResult (normalConfig config) ↔ IsReadable config := by
  rw [normalConfig, hasResult_bind_left fun _ => by split <;> exact hasResult_pure _, target?,
    hasResult_firstSlug?, IsReadable]

end Relation

/-! ### Repeaters -/

/-- Whether the settings of a repeater can be read, apart from its subfields. -/
structure RowsReadable (config : Obj) : Prop where
  minRows : ¬(Obj.getEither config "minRows" "min_rows").IsMisleading
  maxRows : ¬(Obj.getEither config "maxRows" "max_rows").IsMisleading
  maxDepth : ¬(Obj.getEither config "maxDepth" "max_depth").IsMisleading
  layout : (Obj.get config "layout").HasText
  addLabel : (Obj.get config "addLabel").HasText
  labelTemplate : (Obj.get config "rowLabelTemplate").HasText
  rules : ∀ raw ∈ Obj.getList config "rules", VisibilityRule.IsReadable raw

theorem RowLimits.hasResult_ofConfig {config : Obj} : HasResult (ofConfig config) ↔
    ¬(Obj.getEither config "minRows" "min_rows").IsMisleading ∧
      ¬(Obj.getEither config "maxRows" "max_rows").IsMisleading ∧
      ¬(Obj.getEither config "maxDepth" "max_depth").IsMisleading := by
  simp only [← Value.hasResult_toInteger]
  exact hasResult_bind_iff fun _ _ => hasResult_bind_iff fun _ _ =>
    hasResult_bind_pure

theorem RowTexts.hasResult_ofConfig {config : Obj} : HasResult (ofConfig config) ↔
    (Obj.get config "layout").HasText ∧ (Obj.get config "addLabel").HasText ∧
      (Obj.get config "rowLabelTemplate").HasText := by
  rw [← Value.hasResult_text_orElse "cards",
    ← Value.hasResult_text_orElse "Add row", ← Value.hasResult_presentText]
  exact hasResult_bind_iff fun _ _ => hasResult_bind_iff fun _ _ =>
    hasResult_bind_pure

theorem hasResult_repeaterNormalConfig {config : Obj} {limits : RowLimits}
    {subfields : List Value} : HasResult (repeaterNormalConfig config limits subfields) ↔
      (∀ raw ∈ Obj.getList config "rules", VisibilityRule.IsReadable raw) ∧
        (Obj.get config "layout").HasText ∧ (Obj.get config "addLabel").HasText ∧
        (Obj.get config "rowLabelTemplate").HasText := by
  rw [← VisibilityRule.hasResult_listOf, ← RowTexts.hasResult_ofConfig]
  exact hasResult_bind_iff fun _ _ => hasResult_bind_pure

/-! ### Declarations -/

/-- Whether the settings of a field that is no repeater can be read. -/
def PlainReadable (kind : FieldKind) (config : Obj) : Prop :=
  match kind with
  | .relationUser => UserReference.IsReadable config
  | .relation => Relation.IsReadable config
  | _ => kind.hasChoices = true →
      ∀ item ∈ ((Obj.get config "choices").orIfNull (Obj.get config "options")).asList?.getD [],
        Choice.IsReadable item

/-- The value by which a declaration gives the key of its field. -/
def FieldDef.givenKey (o : Obj) : Value :=
  Obj.firstTruthy o ["field_key", "key", "fieldKey"]

/-- Whether what a declaration says of a field besides its settings can be read. -/
structure FieldDef.HeaderReadable (o : Obj) : Prop where
  kind : (Obj.get o "type").HasText
  order : ¬(Obj.getEither o "order_index" "orderIndex").IsMisleading
  label : (Obj.get o "label").HasText
  help : (Obj.firstTruthy o ["help_text", "helpText"]).HasText

mutual

/-- Whether a declaration of a field can be read. What is no object or has no key is left out
whatever else it holds. -/
inductive FieldDef.IsReadable : Value → Prop
  | noObject {raw : Value} : raw.asObj? = none → FieldDef.IsReadable raw
  | keyless {raw : Value} {o : Obj} : raw.asObj? = some o →
      (FieldDef.givenKey o).snakeCase = .ok "" → FieldDef.IsReadable raw
  | declared {raw : Value} {o : Obj} {kind : FieldKind} : raw.asObj? = some o →
      (FieldDef.givenKey o).HasText → FieldDef.HeaderReadable o →
      FieldKind.ofValue (Obj.get o "type") = .ok kind →
      SettingsReadable kind (fieldConfig raw) → FieldDef.IsReadable raw

/-- Whether the settings of a field of some kind can be read. -/
inductive SettingsReadable : FieldKind → Obj → Prop
  | plain {kind : FieldKind} {config : Obj} : kind ≠ .repeater → PlainReadable kind config →
      SettingsReadable kind config
  | repeater {config : Obj} : RowsReadable config →
      (∀ sub ∈ Obj.getList config "subfields", FieldDef.IsReadable sub) →
      SettingsReadable .repeater config

end

theorem FieldKind.hasResult_ofValue {raw : Value} : HasResult (ofValue raw) ↔ raw.HasText := by
  rw [ofValue, hasResult_bind_pure, Value.hasResult_text_orElse]

namespace FieldDef

variable {raw : Value} {o : Obj} {index : Int} {key : String}

/-- The rest of a declaration is looked at only if it has a key. -/
theorem hasResult_header? (index : Int) (hkey : (givenKey o).snakeCase = .ok key) (hne : key ≠ "") :
    HasResult (header? o index) ↔ HeaderReadable o := by
  have hlabel : HasResult (if (Obj.get o "label").isNull then pure "" else
      (Obj.get o "label").text) ↔ (Obj.get o "label").HasText := by
    split
    · next hnull =>
      have hnull : Obj.get o "label" = .null := by
        cases h : Obj.get o "label" <;> simp_all [Value.isNull]
      simp [hnull]
    · exact Value.hasResult_text
  have hparts : HasResult (header? o index) ↔ (Obj.get o "type").HasText ∧
      ¬(Obj.getEither o "order_index" "orderIndex").IsMisleading ∧ (Obj.get o "label").HasText ∧
      (Obj.firstTruthy o ["help_text", "helpText"]).HasText := by
    rw [givenKey] at hkey
    rw [header?, hkey, Outcome.ok_bind, if_neg hne, ← FieldKind.hasResult_ofValue,
      ← Value.hasResult_toInteger, ← hlabel, ← Value.hasResult_presentText]
    refine hasResult_bind_iff fun _ _ => hasResult_bind_iff fun _ _ => ?_
    by_cases hnull : (Obj.get o "label").isNull = true <;> simp only [hnull, if_true] <;>
    exact hasResult_bind_iff fun _ _ => hasResult_bind_pure
  rw [hparts]
  constructor
  · rintro ⟨hkind, horder, hlabel, hhelp⟩
    exact ⟨hkind, horder, hlabel, hhelp⟩
  · exact fun h => ⟨h.kind, h.order, h.label, h.help⟩

/-- A declaration with a key is read with that key and with the kind that it names. -/
theorem kind_of_header? {header : Option FieldDef} (hkey : (givenKey o).snakeCase = .ok key)
    (hne : key ≠ "") (h : header? o index = .ok header) :
    ∃ f, header = some f ∧ FieldKind.ofValue (Obj.get o "type") = .ok f.kind := by
  rw [givenKey] at hkey
  rw [header?, hkey, Outcome.ok_bind, if_neg hne, Outcome.bind_eq_ok_iff] at h
  obtain ⟨kind, hkind, h⟩ := h
  rw [Outcome.bind_eq_ok_iff] at h
  obtain ⟨order, -, h⟩ := h
  simp only at h
  split at h <;>
  · simp only [Outcome.bind_eq_ok_iff, Outcome.pure_eq_ok_iff] at h
    obtain ⟨label, -, help, -, rfl⟩ := h
    exact ⟨_, rfl, hkind⟩

/-- What has to be readable in a declaration with a key. -/
theorem isReadable_iff (ho : raw.asObj? = some o) (hkey : (givenKey o).snakeCase = .ok key)
    (hne : key ≠ "") : IsReadable raw ↔ HeaderReadable o ∧
      ∀ kind, FieldKind.ofValue (Obj.get o "type") = .ok kind →
        SettingsReadable kind (fieldConfig raw) := by
  constructor
  · intro h
    cases h with
    | noObject hnone => simp [ho] at hnone
    | keyless ho' hempty =>
      obtain rfl := Option.some.inj (ho.symm.trans ho')
      exact absurd (Except.ok.inj (hkey.symm.trans hempty)) hne
    | declared ho' _ hheader hkind hsettings =>
      obtain rfl := Option.some.inj (ho.symm.trans ho')
      refine ⟨hheader, fun kind hkind' => ?_⟩
      obtain rfl := Except.ok.inj (hkind.symm.trans hkind')
      exact hsettings
  · rintro ⟨hheader, hsettings⟩
    obtain ⟨kind, hkind⟩ := FieldKind.hasResult_ofValue.mpr hheader.kind
    exact .declared ho (Value.hasResult_snakeCase.mp ⟨key, hkey⟩) hheader hkind (hsettings kind hkind)

theorem settingsReadable_iff_of_ne {kind : FieldKind} {config : Obj} (h : kind ≠ .repeater) :
    SettingsReadable kind config ↔ PlainReadable kind config := by
  constructor
  · rintro (⟨-, hplain⟩ | _)
    · exact hplain
    · exact absurd rfl h
  · exact .plain h

theorem settingsReadable_repeater_iff {config : Obj} :
    SettingsReadable .repeater config ↔
      RowsReadable config ∧ ∀ sub ∈ Obj.getList config "subfields", IsReadable sub := by
  constructor
  · rintro (⟨hne, -⟩ | ⟨hrows, hsubfields⟩)
    · exact absurd rfl hne
    · exact ⟨hrows, hsubfields⟩
  · rintro ⟨hrows, hsubfields⟩
    exact .repeater hrows hsubfields

theorem hasResult_choicesNormalConfig {config : Obj} : HasResult (choicesNormalConfig config) ↔
    ∀ item ∈ ((Obj.get config "choices").orIfNull (Obj.get config "options")).asList?.getD [],
      Choice.IsReadable item := by
  rw [choicesNormalConfig, hasResult_bind_pure, Choice.hasResult_listOf]

theorem hasResult_plainNormalConfig {kind : FieldKind} {config : Obj} :
    HasResult (plainNormalConfig kind config) ↔ PlainReadable kind config := by
  unfold plainNormalConfig PlainReadable
  split
  · exact UserReference.hasResult_normalConfig
  · exact Relation.hasResult_normalConfig
  · split
    · next hchoices => simp [hchoices, hasResult_choicesNormalConfig]
    · next hchoices => simp [hchoices]

/-- Subfields can be read exactly if each declaration can, also those that are left out. -/
theorem hasResult_subfieldsOf {raws : List Value} (index : Nat) (seen : List String)
    (h : ∀ raw ∈ raws, ∀ index, HasResult (ofValue? raw index) ↔ IsReadable raw) :
    HasResult (subfieldsOf raws index seen) ↔ ∀ raw ∈ raws, IsReadable raw := by
  induction raws generalizing index seen with
  | nil => simp [subfieldsOf]
  | cons raw rest ih =>
    rw [List.forall_mem_cons] at h ⊢
    rw [subfieldsOf, ← h.1 index]
    refine hasResult_bind_iff fun found _ => ?_
    cases found with
    | none => exact ih _ _ h.2
    | some f =>
      simp only
      split
      · exact ih _ _ h.2
      · rw [hasResult_bind_pure]
        exact ih _ _ h.2

theorem normalConfig_of_ne {kind : FieldKind} (h : kind ≠ .repeater) (config : Obj) :
    normalConfig kind config = plainNormalConfig kind config := by
  cases kind <;> first | contradiction | rfl

/-- Settings have a strict form exactly if they can be read, which goes by the subfields. -/
theorem hasResult_normalConfig_of {kind : FieldKind} {config : Obj}
    (h : ∀ sub ∈ Obj.getList config "subfields", ∀ index,
      HasResult (ofValue? sub index) ↔ IsReadable sub) :
    HasResult (normalConfig kind config) ↔ SettingsReadable kind config := by
  by_cases hkind : kind = .repeater
  · subst hkind
    have hrows : RowsReadable config ↔ HasResult (RowLimits.ofConfig config) ∧
        (∀ raw ∈ Obj.getList config "rules", VisibilityRule.IsReadable raw) ∧
        (Obj.get config "layout").HasText ∧ (Obj.get config "addLabel").HasText ∧
        (Obj.get config "rowLabelTemplate").HasText := by
      rw [RowLimits.hasResult_ofConfig]
      constructor
      · exact fun h => ⟨⟨h.minRows, h.maxRows, h.maxDepth⟩, h.rules, h.layout, h.addLabel,
          h.labelTemplate⟩
      · rintro ⟨⟨hmin, hmax, hdepth⟩, hrules, hlayout, hadd, htemplate⟩
        exact ⟨hmin, hmax, hdepth, hlayout, hadd, htemplate, hrules⟩
    rw [settingsReadable_repeater_iff, hrows, ← hasResult_subfieldsOf 0 [] h,
      and_assoc, and_comm (b := HasResult (subfieldsOf _ _ _))]
    exact hasResult_bind_iff fun _ _ => hasResult_bind_iff fun _ _ => hasResult_repeaterNormalConfig
  · rw [settingsReadable_iff_of_ne hkind, ← hasResult_plainNormalConfig, normalConfig_of_ne hkind]

/-- A declaration with a key is read part by part. -/
theorem ofValue?_eq (ho : raw.asObj? = some o) : ofValue? raw index = do
    match ← header? o index with
    | none => return none
    | some f => return some { f with config := ← normalConfig f.kind (fieldConfig raw) } := by
  rw [ofValue?]
  split
  · next hnone => simp [ho] at hnone
  · next o' ho' =>
    obtain rfl := Option.some.inj (ho.symm.trans ho')
    refine Outcome.bind_congr fun header _ => ?_
    cases header with
    | none => rfl
    | some f =>
      simp only
      split
      · next hkind => simp [hkind, normalConfig, repeaterConfigOf]
      · next hkind => rw [normalConfig_of_ne hkind]

/-- A declaration has a strict form, or is left out, exactly if it can be read. -/
theorem hasResult_ofValue? (raw : Value) (index : Int) :
    HasResult (ofValue? raw index) ↔ IsReadable raw := by
  induction hweight : raw.weight using Nat.strongRecOn generalizing raw index with
  | ind weight ih =>
    subst hweight
    cases ho : raw.asObj? with
    | none =>
      have hnone : ofValue? raw index = .ok none := by
        rw [ofValue?]
        split
        · rfl
        · simp_all
      exact iff_of_true ⟨none, hnone⟩ (.noObject ho)
    | some o =>
      have hsettings (kind : FieldKind) : HasResult (normalConfig kind (fieldConfig raw)) ↔
          SettingsReadable kind (fieldConfig raw) := by
        refine hasResult_normalConfig_of fun sub hsub index => ih sub.weight ?_ sub index rfl
        have hitem := Value.weight_lt_of_mem hsub
        have hitems := Value.itemsWeight_getList_le (fieldConfig raw) "subfields"
        have hconfig := membersWeight_fieldConfig_lt ho
        omega
      rw [ofValue?_eq ho]
      cases hkey : (givenKey o).snakeCase with
      | error e =>
        have hnone : ¬(givenKey o).HasText := by
          rw [← Value.hasResult_snakeCase, hkey]
          exact Outcome.not_hasResult_error e
        have hheader : header? o index = .error e := by
          rw [givenKey] at hkey
          rw [header?, hkey]
          rfl
        refine iff_of_false (by simp [hheader, hasResult_bind]) fun h => ?_
        cases h with
        | noObject hno => simp [ho] at hno
        | keyless ho' hempty =>
          obtain rfl := Option.some.inj (ho.symm.trans ho')
          simp [hkey] at hempty
        | declared ho' htext =>
          obtain rfl := Option.some.inj (ho.symm.trans ho')
          exact hnone htext
      | ok key =>
        by_cases hne : key = ""
        · subst hne
          have hheader : header? o index = .ok none := by
            rw [givenKey] at hkey
            rw [header?, hkey]
            rfl
          rw [hheader, Outcome.ok_bind]
          exact iff_of_true (hasResult_pure _) (.keyless ho hkey)
        · rw [isReadable_iff ho hkey hne, ← hasResult_header? index hkey hne]
          refine hasResult_bind_iff fun header hheader => ?_
          obtain ⟨f, rfl, hkind⟩ := kind_of_header? hkey hne hheader
          simp only [hkind, Except.ok.injEq, forall_eq', ← hsettings]
          exact hasResult_bind_pure

end FieldDef

end ContentEngine
