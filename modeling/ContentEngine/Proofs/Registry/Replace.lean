import ContentEngine.Proofs.Registry.FieldIds
import ContentEngine.Proofs.Registry.Reads

/-!
# Replacing the fields of a type

A field is read twice from one declaration: when it is stored, and once more, from what has been
stored, when the fields of its type are read. What both readings have in common is told by
`FieldDef.IsFormOf`: the key, the kind, whether a value is required, the place and the settings are
those that the declaration itself has in strict form (`FieldDef.isFormOf_of_ofValue?`,
`PresentedField.isFormOf_of_ofStored?`).

`fields_replaced_exactly` is about all calls: the fields that are read after a replacement are the
given ones, in their order, with identifiers that are carried over by key.
-/

namespace ContentEngine

open Outcome (HasResult hasResult_bind_iff hasResult_bind_left hasResult_ok hasResult_pure)

variable {raw : Value} {o : Obj}

/-! ### What is read of a declaration -/

/-- Whether a strict form has the key, the kind, the place and the settings of the field that an
object declares at some place of a list, and requires a value if that does. -/
structure FieldDef.IsFormOf (d : FieldDef) (o : Obj) (index : Int) : Prop where
  key : (givenKey o).snakeCase = .ok d.key
  kind : FieldKind.ofValue (Obj.get o "type") = .ok d.kind
  required : d.required = (Obj.get o "required").truthy
  place : ∃ given, (Obj.getEither o "order_index" "orderIndex").toInteger = .ok given ∧
    d.orderIndex = given.getD index
  config : FieldDef.normalConfig d.kind (fieldConfig (.obj o)) = .ok d.config

theorem fieldConfig_of_asObj? (ho : raw.asObj? = some o) :
    fieldConfig raw = fieldConfig (.obj o) := by
  rw [fieldConfig, fieldConfig, ho]
  rfl

namespace FieldDef

variable {d : FieldDef} {index : Int} {key : String}

/-- Two such forms say the same. -/
theorem IsFormOf.unique {d' : FieldDef} (h : d.IsFormOf o index) (h' : d'.IsFormOf o index) :
    d.key = d'.key ∧ d.kind = d'.kind ∧ d.required = d'.required ∧ d.orderIndex = d'.orderIndex ∧
      d.config = d'.config := by
  have hkind := Except.ok.inj (h.kind.symm.trans h'.kind)
  obtain ⟨given, hgiven, hplace⟩ := h.place
  obtain ⟨given', hgiven', hplace'⟩ := h'.place
  obtain rfl := Except.ok.inj (hgiven.symm.trans hgiven')
  have hconfig := h'.config
  rw [← hkind, h.config, Except.ok.injEq] at hconfig
  exact ⟨Except.ok.inj (h.key.symm.trans h'.key), hkind, h.required.trans h'.required.symm,
    hplace.trans hplace'.symm, hconfig⟩

/-- What a declaration with a key says of a field besides its settings. -/
theorem of_header? {header : Option FieldDef} (hkey : (givenKey o).snakeCase = .ok key)
    (hne : key ≠ "") (h : header? o index = .ok header) :
    ∃ f, header = some f ∧ f.id = Obj.get o "id" ∧ f.key = key ∧
      FieldKind.ofValue (Obj.get o "type") = .ok f.kind ∧
      f.required = (Obj.get o "required").truthy ∧
      ∃ given, (Obj.getEither o "order_index" "orderIndex").toInteger = .ok given ∧
        f.orderIndex = given.getD index := by
  rw [givenKey] at hkey
  rw [header?, hkey, Outcome.ok_bind, if_neg hne, Outcome.bind_eq_ok_iff] at h
  obtain ⟨kind, hkind, h⟩ := h
  rw [Outcome.bind_eq_ok_iff] at h
  obtain ⟨given, hgiven, h⟩ := h
  simp only at h
  split at h <;>
  · simp only [Outcome.bind_eq_ok_iff, Outcome.pure_eq_ok_iff] at h
    obtain ⟨label, -, help, -, rfl⟩ := h
    exact ⟨_, rfl, rfl, rfl, hkind, rfl, given, hgiven, rfl⟩

/-- What is read of a declaration with a key is a form of it, under its identifier. -/
theorem isFormOf_of_ofValue? (ho : raw.asObj? = some o) (hkey : (givenKey o).snakeCase = .ok key)
    (hne : key ≠ "") {found : Option FieldDef} (h : ofValue? raw index = .ok found) :
    ∃ d, found = some d ∧ d.id = Obj.get o "id" ∧ d.IsFormOf o index := by
  rw [ofValue?_eq ho, Outcome.bind_eq_ok_iff] at h
  obtain ⟨header, hheader, h⟩ := h
  obtain ⟨f, rfl, hid, hfkey, hkind, hrequired, hplace⟩ := of_header? hkey hne hheader
  simp only [Outcome.bind_eq_ok_iff, Outcome.pure_eq_ok_iff] at h
  obtain ⟨config, hconfig, rfl⟩ := h
  rw [fieldConfig_of_asObj? ho] at hconfig
  exact ⟨_, rfl, hid, hkey.trans (congrArg _ hfkey.symm), hkind, hrequired, hplace, hconfig⟩

/-- A declaration that has a form and a label is read exactly if its help text is a text. -/
theorem hasResult_ofValue?_of_isFormOf (ho : raw.asObj? = some o) (h : d.IsFormOf o index)
    (hne : d.key ≠ "") (hlabel : (Obj.get o "label").HasText) :
    HasResult (ofValue? raw index) ↔ (Obj.firstTruthy o ["help_text", "helpText"]).HasText := by
  have hheader : HeaderReadable o ↔ (Obj.firstTruthy o ["help_text", "helpText"]).HasText := by
    obtain ⟨given, hgiven, -⟩ := h.place
    exact ⟨fun hheader => hheader.help, fun hhelp => ⟨FieldKind.hasResult_ofValue.mp ⟨_, h.kind⟩,
      Value.hasResult_toInteger.mp ⟨given, hgiven⟩, hlabel, hhelp⟩⟩
  rw [← hheader, ← hasResult_header? index h.key hne, ofValue?_eq ho, Outcome.hasResult_bind]
  -- past the header there are only the settings, which the form shows to be readable
  refine exists_congr fun header => and_iff_left_of_imp fun hfound => ?_
  obtain ⟨f, rfl, -, -, hkind, -⟩ := of_header? h.key hne hfound
  have hsame := Except.ok.inj (hkind.symm.trans h.kind)
  have hconfig := h.config
  rw [← hsame, ← fieldConfig_of_asObj? ho] at hconfig
  simp only [hconfig]
  exact hasResult_pure _

end FieldDef

/-! ### What is stored of a declaration -/

namespace FieldInput

variable {index : Nat} {seen : List String} {f : FieldInput} {raws : List Value}
variable {inputs : List FieldInput}

/-- Whether an input is what is stored of the field that an object declares at some place of a
list. -/
structure IsReadOf (f : FieldInput) (o : Obj) (index : Nat) : Prop where
  key : (FieldDef.givenKey o).snakeCase = .ok f.key
  label : (Obj.get o "label").trimmedText ≠ ""
  kind : FieldKind.ofValue (Obj.get o "type") = .ok f.kind
  required : f.required = (Obj.get o "required").truthy
  place : ∃ given, (Obj.getEither o "order_index" "orderIndex").toInteger = .ok given ∧
    f.orderIndex = given.getD index
  config : f.config = fieldConfig (.obj o)

theorem isReadOf_of_ofObj (h : ofObj index seen o = .ok f) : f.IsReadOf o index := by
  simp only [ofObj, Outcome.bind_eq_ok_iff] at h
  obtain ⟨key, hkey, h⟩ := h
  simp only [Outcome.throw_bind, ite_eq_iff, reduceCtorEq, and_false, false_or] at h
  obtain ⟨-, hlabel, -, h⟩ := h
  simp only [Outcome.bind_eq_ok_iff, Outcome.pure_eq_ok_iff] at h
  obtain ⟨given, hgiven, kind, hkind, rfl⟩ := h
  exact ⟨hkey, hlabel, hkind, rfl, ⟨given, hgiven, rfl⟩, rfl⟩

/-- One input is stored for each declaration, in their order. -/
theorem getElem?_of_listFrom (h : listFrom index seen raws = .ok inputs) :
    inputs.length = raws.length ∧ ∀ (i : Nat) (f : FieldInput), inputs[i]? = some f →
      ∃ (raw : Value) (o : Obj), raws[i]? = some raw ∧ raw.asObj? = some o ∧
        f.IsReadOf o (index + i) := by
  induction raws generalizing index seen inputs with
  | nil =>
    rw [listFrom, Except.ok.injEq] at h
    subst h
    exact ⟨rfl, by simp⟩
  | cons raw rest ih =>
    rw [listFrom] at h
    split at h
    · exact absurd h Outcome.throw_ne_ok
    · next o ho =>
      simp only [Outcome.bind_eq_ok_iff, Outcome.pure_eq_ok_iff] at h
      obtain ⟨first, hfirst, others, hothers, rfl⟩ := h
      obtain ⟨hlength, hrest⟩ := ih hothers
      refine ⟨congrArg (· + 1) hlength, fun i f hf => ?_⟩
      cases i with
      | zero =>
        obtain rfl := Option.some.inj hf
        exact ⟨raw, o, rfl, ho, isReadOf_of_ofObj hfirst⟩
      | succ i =>
        obtain ⟨raw', o', hraw', ho', hread⟩ := hrest i f hf
        exact ⟨raw', o', hraw', ho', by rwa [Nat.add_assoc, Nat.add_comm 1 i] at hread⟩

/-- A label that is stored has been a text. -/
theorem IsReadOf.hasText_label (h : f.IsReadOf o index) : (Obj.get o "label").HasText := by
  cases hlabel : Obj.get o "label" with
  | str text => exact Value.hasText_str text
  | _ => exact absurd (by rw [hlabel]; rfl) h.label

end FieldInput

/-! ### What is read of what has been stored -/

namespace PresentedField

/-- A stored field is read as a form of the declaration that it has been stored from. -/
theorem isFormOf_of_ofStored? {f : StoredField} {index : Nat} (hread : f.input.IsReadOf o index)
    (hkey : IsKey f.input.key) (hne : f.input.key ≠ "") {found : Option PresentedField}
    (h : ofStored? f.toObj = .ok found) :
    ∃ p, found = some p ∧ p.definition.id = .str f.id ∧ p.definition.key = f.input.key ∧
      p.definition.IsFormOf o index := by
  simp only [ofStored?, Outcome.bind_eq_ok_iff, Outcome.pure_eq_ok_iff] at h
  obtain ⟨place, -, definition, hdefinition, rfl⟩ := h
  have hgiven : (FieldDef.givenKey f.toObj).snakeCase = .ok f.input.key :=
    Obj.snakeCase_firstTruthy rfl hkey hne
  obtain ⟨d, rfl, hid, hform⟩ := FieldDef.isFormOf_of_ofValue? rfl hgiven hne hdefinition
  have hdkey : d.key = f.input.key := Except.ok.inj (hform.key.symm.trans hgiven)
  have hkind : d.kind = f.input.kind :=
    Except.ok.inj (hform.kind.symm.trans (FieldKind.ofValue_name f.input.kind))
  obtain ⟨given, hplace, hdplace⟩ := hform.place
  have hstored : (Obj.getEither f.toObj "order_index" "orderIndex").toInteger =
      .ok (some f.input.orderIndex) := rfl
  obtain rfl := Except.ok.inj (hplace.symm.trans hstored)
  refine ⟨_, rfl, hid, hdkey, ?_, ?_, ?_, ?_, ?_⟩
  · exact hread.key.trans (congrArg _ hdkey.symm)
  · exact hread.kind.trans (congrArg _ hkind.symm)
  · exact hform.required.trans hread.required
  · obtain ⟨given, hgiven, hplace⟩ := hread.place
    exact ⟨given, hgiven, hdplace.trans hplace⟩
  · have hconfig := hform.config
    rw [fieldConfig_toObj, hread.config] at hconfig
    exact hconfig

/-- Stored fields are read one by one, and then put in their order. -/
theorem exists_of_listOf {stored : List StoredField} {shown : List PresentedField}
    (hkeys : ∀ f ∈ stored, IsKey f.input.key ∧ f.input.key ≠ "")
    (h : listOf (stored.map StoredField.toObj) = .ok shown) :
    ∃ made : List PresentedField,
      shown = made.mergeSort (fun a b => FieldDef.le a.definition b.definition) ∧
      made.length = stored.length ∧ ∀ (i : Nat) (p : PresentedField), made[i]? = some p →
        ∃ f, stored[i]? = some f ∧ ofStored? f.toObj = .ok (some p) := by
  simp only [listOf, Outcome.bind_eq_ok_iff, Outcome.pure_eq_ok_iff] at h
  obtain ⟨found, hfound, rfl⟩ := h
  rw [inOrder]
  suffices hmade : ∃ made : List PresentedField, found.filterMap (fun p => p) = made ∧
      made.length = stored.length ∧ ∀ (i : Nat) (p : PresentedField), made[i]? = some p →
        ∃ f, stored[i]? = some f ∧ ofStored? f.toObj = .ok (some p) by
    obtain ⟨made, rfl, hmade⟩ := hmade
    exact ⟨_, rfl, hmade⟩
  -- no field is passed over, since each has a key, so that places are kept
  induction stored generalizing found with
  | nil =>
    rw [List.map_nil, List.mapM_nil, Outcome.pure_eq_ok_iff] at hfound
    subst hfound
    exact ⟨[], rfl, rfl, by simp⟩
  | cons f rest ih =>
    simp only [List.map_cons, List.mapM_cons, Outcome.bind_eq_ok_iff,
      Outcome.pure_eq_ok_iff] at hfound
    obtain ⟨first, hfirst, others, hothers, rfl⟩ := hfound
    rw [List.forall_mem_cons] at hkeys
    obtain ⟨p, rfl, -⟩ := of_ofStored? rfl hkeys.1.1 hkeys.1.2 rfl hfirst
    obtain ⟨made, hmade, hlength, hrest⟩ := ih hkeys.2 others hothers
    refine ⟨p :: made, by rw [← hmade]; rfl, congrArg (· + 1) hlength, fun i q hq => ?_⟩
    cases i with
    | zero =>
      obtain rfl := Option.some.inj hq
      exact ⟨f, rfl, hfirst⟩
    | succ i => exact hrest i q hq

end PresentedField

/-! ### The order of fields -/

namespace FieldDef

theorem le_iff {a b : FieldDef} : le a b = true ↔
    a.orderIndex < b.orderIndex ∨ a.orderIndex = b.orderIndex ∧ a.key ≤ b.key := by
  simp [le]

theorem le_trans {a b c : FieldDef} (hab : le a b = true) (hbc : le b c = true) :
    le a c = true := by
  rw [le_iff] at hab hbc ⊢
  rcases hab with hab | ⟨hab, hkab⟩ <;> rcases hbc with hbc | ⟨hbc, hkbc⟩
  · exact .inl (hab.trans hbc)
  · exact .inl (hbc ▸ hab)
  · exact .inl (hab ▸ hbc)
  · exact .inr ⟨hab.trans hbc, hkab.trans hkbc⟩

theorem le_total (a b : FieldDef) : (le a b || le b a) = true := by
  rw [Bool.or_eq_true, le_iff, le_iff]
  rcases lt_trichotomy a.orderIndex b.orderIndex with h | h | h
  · exact .inl (.inl h)
  · rcases Std.Total.total (r := (· ≤ ·)) a.key b.key with hkey | hkey
    · exact .inl (.inr ⟨h, hkey⟩)
    · exact .inr (.inr ⟨h.symm, hkey⟩)
  · exact .inr (.inl h)

end FieldDef

/-! ### Replacements -/

/-- Whether a field that is read is made of a declaration at some place of a list: it is a form of
the declaration, and agrees with what the declaration itself is read as. The latter has a result
unless the help text is no text. -/
structure PresentedField.IsMadeOf (p : PresentedField) (raw : Value) (index : Nat) : Prop where
  form : ∃ o, raw.asObj? = some o ∧ p.definition.IsFormOf o index
  strict : ∀ found, FieldDef.ofValue? raw index = .ok found → ∃ d, found = some d ∧
    p.definition.key = d.key ∧ p.definition.kind = d.kind ∧ p.definition.required = d.required ∧
    p.definition.orderIndex = d.orderIndex ∧ p.definition.config = d.config
  readable : HasResult (FieldDef.ofValue? raw index) ↔
    (Obj.firstTruthy raw.members ["help_text", "helpText"]).HasText

/-- What has been stored of a declaration is read as a field that is made of it. -/
theorem PresentedField.isMadeOf_of_ofStored? {f : StoredField} {p : PresentedField} {index : Nat}
    (ho : raw.asObj? = some o) (hread : f.input.IsReadOf o index) (hkey : IsKey f.input.key)
    (hne : f.input.key ≠ "") (h : ofStored? f.toObj = .ok (some p)) :
    p.IsMadeOf raw index ∧ p.definition.id = .str f.id ∧ p.definition.key = f.input.key := by
  obtain ⟨q, hq, hid, hpkey, hform⟩ := isFormOf_of_ofStored? hread hkey hne h
  obtain rfl := Option.some.inj hq
  have hpne : p.definition.key ≠ "" := hpkey ▸ hne
  refine ⟨⟨⟨o, ho, hform⟩, fun found hfound => ?_, ?_⟩, hid, hpkey⟩
  · obtain ⟨d, rfl, -, hd⟩ := FieldDef.isFormOf_of_ofValue? ho hform.key hpne hfound
    exact ⟨d, rfl, hform.unique hd⟩
  · rw [Value.members, ho, Option.getD_some]
    exact FieldDef.hasResult_ofValue?_of_isFormOf ho hform hpne hread.hasText_label

/-- Whether the fields of a type are exactly those that some declarations describe, after they have
been replaced. -/
structure World.IsReplaced (w : World) (t : ContentType) (items : List Value)
    (shown : List PresentedField) (w' : World) : Prop where
  read : ∀ name, name = t.id ∨ name = t.values.slug →
    (Memory.getFields name).run w' = (.ok shown, w')
  made : ∃ made : List PresentedField, shown.Perm made ∧ made.length = items.length ∧
    ∀ (i : Nat) (raw : Value) (p : PresentedField), items[i]? = some raw → made[i]? = some p →
      p.IsMadeOf raw i
  sorted : shown.Pairwise fun p q => FieldDef.le p.definition q.definition = true
  nodup : (shown.map fun p => p.definition.key).Nodup
  kept : ∀ p ∈ shown, ∀ f ∈ w.fieldsOf t.id, f.input.key = p.definition.key →
    p.definition.id = .str f.id
  issued : ∀ p ∈ shown, ¬StoredField.HasKey (w.fieldsOf t.id) p.definition.key →
    ∃ id, p.definition.id = .str id ∧
      ∀ u : World, u.RegistryReached → u.Precedes w → ∀ a, ∀ f ∈ u.fieldsOf a, f.id ≠ id
  others : ∀ a, a ≠ t.id → w'.fieldsOf a = w.fieldsOf a

namespace World

variable {w w' : World} {t : ContentType} {name : String} {items : List Value}
variable {shown : List PresentedField}

/-- A replacement that has an answer has recorded the fields that it describes, and has read
them. -/
theorem of_run_replaceFields (ht : w.findType? name = some t)
    (h : (Memory.replaceFields name (.list items)).run w = (.ok shown, w')) :
    ∃ inputs, FieldInput.listOf (.list items) = .ok inputs ∧ w.FieldsReplaced t inputs w' ∧
      (Memory.getFields t.id).run w' = (.ok shown, w') := by
  cases hinputs : FieldInput.listOf (.list items) with
  | error e =>
    rw [Memory.run_replaceFields_of_error ht hinputs] at h
    cases h
  | ok inputs =>
    obtain ⟨u, hreplaced⟩ := w.exists_fieldsReplaced t inputs
    rw [Memory.run_replaceFields ht hinputs hreplaced] at h
    obtain rfl : u = w' := by
      rw [← Memory.isReadOnly_getFields t.id u, h]
    exact ⟨inputs, rfl, hreplaced, h⟩

/-- The type whose fields have been replaced is still there, under its names. -/
theorem FieldsReplaced.exists_after {inputs : List FieldInput} (ht : t ∈ w.types)
    (h : w.FieldsReplaced t inputs w') : ∃ t' ∈ w'.types, t'.id = t.id ∧ t'.values = t.values := by
  obtain ⟨hrun⟩ := h
  obtain ⟨⟨issued, rfl⟩, -⟩ := Memory.of_run_recordFields hrun
  exact ⟨_, List.mem_map.mpr ⟨t, ht, if_pos rfl⟩, rfl, rfl⟩

theorem findType?_of_name (hw : w.TypesSound) (ht : t ∈ w.types)
    (hname : name = t.id ∨ name = t.values.slug) : w.findType? name = some t := by
  rcases hname with rfl | rfl
  · exact hw.findType?_id ht
  · exact hw.findType?_slug ht

/-- The fields that are read after a replacement come from the declarations, one from each. -/
theorem exists_made {fields : List StoredField} {inputs : List FieldInput}
    (hinputs : FieldInput.listOf (.list items) = .ok inputs)
    (hfields : fields.map (·.input) = inputs)
    (h : PresentedField.listOf (fields.map StoredField.toObj) = .ok shown) :
    ∃ made : List PresentedField,
      shown = made.mergeSort (fun p q => FieldDef.le p.definition q.definition) ∧
      made.length = items.length ∧ ∀ (i : Nat) (p : PresentedField), made[i]? = some p →
        ∃ raw, items[i]? = some raw ∧ ∃ f ∈ fields, p.IsMadeOf raw i ∧
          p.definition.id = .str f.id ∧ p.definition.key = f.input.key := by
  subst hfields
  have hstrict := FieldInput.isStrict_of_listOf hinputs
  have hkeys : ∀ f ∈ fields, IsKey f.input.key ∧ f.input.key ≠ "" := fun f hf =>
    ⟨hstrict.isKey _ (List.mem_map_of_mem hf), hstrict.ne_empty _ (List.mem_map_of_mem hf)⟩
  obtain ⟨made, hshown, hlength, hmade⟩ := PresentedField.exists_of_listOf hkeys h
  obtain ⟨hcount, hread⟩ := FieldInput.getElem?_of_listFrom hinputs
  refine ⟨made, hshown, ?_, fun i p hp => ?_⟩
  · rw [hlength, ← hcount, List.length_map]
  · obtain ⟨f, hf, hstored⟩ := hmade i p hp
    obtain ⟨raw, o, hraw, ho, hinput⟩ := hread i f.input (by rw [List.getElem?_map, hf]; rfl)
    rw [Nat.zero_add] at hinput
    have hmem := List.mem_of_getElem? hf
    exact ⟨raw, hraw, f, hmem, PresentedField.isMadeOf_of_ofStored? ho hinput (hkeys f hmem).1
      (hkeys f hmem).2 hstored⟩

theorem isReplaced_of_run (hw : w.RegistryReached) (ht : t ∈ w.types)
    (hname : name = t.id ∨ name = t.values.slug)
    (h : (Memory.replaceFields name (.list items)).run w = (.ok shown, w')) :
    w.IsReplaced t items shown w' := by
  have hsettled := hw.settled
  have hfind := findType?_of_name hsettled.sound.types ht hname
  obtain ⟨inputs, hinputs, hreplaced, hget⟩ := of_run_replaceFields hfind h
  obtain ⟨-, fields, hfields, hrecorded, hset⟩ := hreplaced.exists_recorded hsettled.sound.fields
  have hnext : (RegistryCall.replaceFields name (.list items)).next w = w' :=
    (RegistryCall.next_eq_iff hsettled.sound _).mpr (.inl (.replaceFields hfind hinputs hreplaced))
  have hafter : w'.RegistrySettled := hnext ▸ hsettled.step (.call _)
  obtain ⟨t', ht', hid, hvalues⟩ := hreplaced.exists_after ht
  have hfind' (name : String) (hname : name = t.id ∨ name = t.values.slug) :
      (Memory.getFields name).run w' =
        (PresentedField.listOf (fields.map StoredField.toObj), w') := by
    rw [← hid, ← hvalues] at hname
    rw [Memory.run_getFields (findType?_of_name hafter.sound.types ht' hname), hid, hset,
      if_pos rfl]
  have hlist : PresentedField.listOf (fields.map StoredField.toObj) = .ok shown :=
    congrArg Prod.fst ((hfind' t.id (.inl rfl)).symm.trans hget)
  have hstrict := FieldInput.isStrict_of_listOf hinputs
  obtain ⟨made, rfl, hlength, hmade⟩ := exists_made hinputs hfields hlist
  have hperm := List.mergeSort_perm made fun p q => FieldDef.le p.definition q.definition
  have hmember {p : PresentedField} (hp : p ∈ made.mergeSort fun p q =>
      FieldDef.le p.definition q.definition) :
      ∃ f ∈ fields, p.definition.id = .str f.id ∧ p.definition.key = f.input.key := by
    obtain ⟨i, hi⟩ := List.getElem?_of_mem (hperm.mem_iff.mp hp)
    obtain ⟨-, -, f, hf, -, hpid, hpkey⟩ := hmade i p hi
    exact ⟨f, hf, hpid, hpkey⟩
  constructor
  · intro name hname
    rw [hfind' name hname, hlist]
  · refine ⟨made, hperm, hlength, fun i raw p hraw hp => ?_⟩
    obtain ⟨raw', hraw', f, -, hmadeOf, -⟩ := hmade i p hp
    obtain rfl := Option.some.inj (hraw.symm.trans hraw')
    exact hmadeOf
  · refine List.pairwise_mergeSort (fun p q r hpq hqr => ?_) (fun p q => ?_) made
    · exact FieldDef.le_trans hpq hqr
    · exact FieldDef.le_total p.definition q.definition
  · exact (PresentedField.keys_of_listOf (hfields ▸ hstrict) hlist).2
  · intro p hp b hb hkey
    obtain ⟨f, hf, hpid, hpkey⟩ := hmember hp
    rw [hpid, hrecorded.kept f hf b hb (hkey.trans hpkey)]
  · intro p hp hnew
    obtain ⟨f, hf, hpid, hpkey⟩ := hmember hp
    obtain ⟨n, hlow, -, hfid⟩ := hrecorded.issued f hf (hpkey ▸ hnew)
    refine ⟨f.id, hpid, fun u hu hrun a g hg => ?_⟩
    -- worlds before this one have issued smaller numbers only
    have hle := (hu.settled.precedes hrun).2
    rw [hfid]
    exact hu.settled.ids.id_ne_of_lt hg (Nat.lt_of_le_of_lt hle hlow)
  · intro a ha
    rw [hset, if_neg ha]

end World

/-- The fields of a type are replaced by exactly the given ones, whose identifiers are carried over
by key; no two fields of any types ever share an identifier, and a key that stays present in a type
keeps its own. -/
theorem fields_replaced_exactly {w : World} (h : w.RegistryReached) :
    (∀ t ∈ w.types, ∀ name, name = t.id ∨ name = t.values.slug → ∀ items shown w',
      (Memory.replaceFields name (.list items)).run w = (.ok shown, w') →
        w.IsReplaced t items shown w') ∧
    (∀ a b, ∀ f ∈ w.fieldsOf a, ∀ g ∈ w.fieldsOf b, f.id = g.id → a = b ∧ f = g) ∧
    (∀ a, ((w.fieldsOf a).map fun f => f.id).Nodup) ∧
    ∀ w' typeId key, w.KeyStays typeId key w' → ∀ f ∈ w.fieldsOf typeId,
      ∀ g ∈ w'.fieldsOf typeId, f.input.key = key → g.input.key = key → f.id = g.id := by
  have hsettled := h.settled
  have hkeys (a : String) : ((w.fieldsOf a).map (·.input.key)).Nodup := by
    have hnodup := (hsettled.sound.fields.fieldsOf a).nodup
    rwa [List.map_map] at hnodup
  have hsame (a b : String) (f : StoredField) (hf : f ∈ w.fieldsOf a) (g : StoredField)
      (hg : g ∈ w.fieldsOf b) (hid : f.id = g.id) : a = b ∧ f = g := by
    obtain ⟨rfl, hkey⟩ := hsettled.ids.apart a b f hf g hg hid
    exact ⟨rfl, List.inj_on_of_nodup_map (hkeys a) hf hg hkey⟩
  refine ⟨fun t ht name hname items shown w' hrun => World.isReplaced_of_run h ht hname hrun,
    hsame, fun a => ?_, fun w' typeId key hrun f hf g hg hfkey hgkey => ?_⟩
  · exact (List.nodup_map_iff_inj_on (hkeys a).of_map).mpr fun f hf g hg hid =>
      (hsame a a f hf g hg hid).2
  · exact (hrun.id_eq hsettled hf hfkey hg hgkey).symm

/-! ### Albums with years -/

/-- Two declarations of fields of albums. The first one has older spellings. -/
def discItems : List Value :=
  [.obj [("fieldKey", .str "Tracks"), ("label", .str "Tracks"), ("type", .str "repeater"),
      ("options", .obj [("minRows", .int 7)]), ("orderIndex", .int 5)],
    .obj [("key", .str "year"), ("label", .str "Year"), ("type", .str "number")]]

/-- What is stored of these. -/
def discInputs : List FieldInput :=
  [⟨"tracks", "Tracks", .repeater, false, "", 5, [("minRows", .int 7)]⟩,
    ⟨"year", "Year", .number, false, "", 1, []⟩]

/-- The world in which albums have tracks, as before, and a year. -/
def discWorld : World :=
  ((trackWorld "5").issue.putFields albumType.id
    [⟨albumWorld.origin.issue.latest, albumType.id, discInputs[0]⟩,
      ⟨(trackWorld "5").origin.issue.latest, albumType.id, discInputs[1]⟩]).putType albumType

theorem listOf_discItems : FieldInput.listOf (.list discItems) = .ok discInputs := by
  cbv

theorem next_replaceFields_discs :
    (RegistryCall.replaceFields "albums" (.list discItems)).next (trackWorld "5") = discWorld := by
  rw [RegistryCall.next_eq_iff (registryReached_trackWorld "5").sound]
  exact .inl (.replaceFields rfl listOf_discItems (.mk rfl))

/-- Albums are given a year, and keep the identifier of their tracks. -/
theorem tracks_kept : ∃ shown,
    (trackWorld "5").RegistryReached ∧ albumType ∈ (trackWorld "5").types ∧
    (Memory.replaceFields "albums" (.list discItems)).run (trackWorld "5") =
      (.ok shown, discWorld) ∧
    (trackWorld "5").IsReplaced albumType discItems shown discWorld ∧
    (trackWorld "5").KeyStays albumType.id "tracks" discWorld ∧
    ∀ f ∈ (trackWorld "5").fieldsOf albumType.id, ∀ g ∈ discWorld.fieldsOf albumType.id,
      f.input.key = "tracks" → g.input.key = "tracks" → f.id = g.id := by
  have hreached := registryReached_trackWorld "5"
  have hmem := albumType_mem_trackWorld "5"
  have hdiscs : discWorld.RegistryReached := next_replaceFields_discs ▸ hreached.call _
  have hreadable : discWorld.FieldsReadable albumType.id := by
    rintro f (_ | ⟨_, _ | ⟨_, hf⟩⟩)
    · refine FieldDef.settingsReadable_repeater_iff.mpr ⟨⟨not_false, not_false, not_false, ?_, ?_,
        ?_, fun raw hraw => absurd hraw List.not_mem_nil⟩, fun sub hsub =>
          absurd hsub List.not_mem_nil⟩ <;> exact Value.hasText_null
    · exact .plain (by decide) fun hchoices => absurd hchoices (by decide)
    · contradiction
  have hfind : discWorld.findType? albumType.id = some albumType := rfl
  have hbefore : (trackWorld "5").findType? "albums" = some albumType := rfl
  have hrecorded : (trackWorld "5").FieldsReplaced albumType discInputs discWorld := .mk rfl
  obtain ⟨shown, hrun⟩ := Memory.exists_run_replaceFields hbefore listOf_discItems hrecorded
    hdiscs.sound hfind hreadable
  obtain ⟨hreplaced, -, -, hstays⟩ := fields_replaced_exactly hreached
  have hrefl : (trackWorld "5").KeyStays albumType.id "tracks" (trackWorld "5") :=
    .refl ⟨_, List.mem_singleton_self _, rfl⟩
  have hkept : (trackWorld "5").KeyStays albumType.id "tracks" discWorld :=
    hrefl.step (next_replaceFields_discs ▸ .call _) ⟨_, List.mem_cons_self, rfl⟩
  exact ⟨shown, hreached, hmem, hrun, hreplaced albumType hmem "albums" (.inr rfl) _ _ _ hrun,
    hkept, hstays discWorld albumType.id "tracks" hkept⟩

end ContentEngine
