import ContentEngine.Proofs.Field.Readable
import ContentEngine.Proofs.Service.Writes
import ContentEngine.Proofs.World.Linked

/-!
# Showing what has been written

The settings of a user reference are read twice: once when the fields of a type are read, and once
more, from what has been read, when it is said which fields refer to users. The second reading never
fails (`Relation.hasResult_userFields`). So a type whose fields have been read to prepare an entry
can show the entry as well (`Service.Prepares.isShowable`), and nothing goes wrong after an entry
has been stored: a call of the service that writes and ends in a fault leaves the world as it was
(`Service.failsCleanly_createEntryWith`, `Service.failsCleanly_updateEntryWith`,
`Service.failsCleanly_deleteEntry`).
-/

namespace ContentEngine

open Outcome (HasResult hasResult_ok)

/-! ### The settings of user references -/

namespace PresentedField

variable {stored : List Obj} {fields : List PresentedField}

/-- What is read of a field is a strict form. -/
theorem exists_ofValue?_of_listOf (h : listOf stored = .ok fields) {p : PresentedField}
    (hp : p ∈ fields) : ∃ o ∈ stored, ∃ index, FieldDef.ofValue? (.obj o) index =
      .ok (some p.definition) := by
  simp only [listOf, Outcome.bind_eq_ok_iff, Outcome.pure_eq_ok_iff] at h
  obtain ⟨found, hfound, rfl⟩ := h
  rw [inOrder, List.mem_mergeSort, List.mem_filterMap] at hp
  obtain ⟨_, hmem, rfl⟩ := hp
  obtain ⟨o, ho, hread⟩ := Outcome.exists_of_mem_mapM hfound hmem
  simp only [ofStored?, Outcome.bind_eq_ok_iff, Outcome.pure_eq_ok_iff] at hread
  obtain ⟨order, -, definition, hdefinition, hsome⟩ := hread
  obtain ⟨d, rfl, rfl⟩ := Option.map_eq_some_iff.mp hsome
  exact ⟨o, ho, _, hdefinition⟩

/-- The configuration of a field that is read is in strict form. -/
theorem exists_normalConfig_of_listOf (h : listOf stored = .ok fields) {p : PresentedField}
    (hp : p ∈ fields) : ∃ config, FieldDef.normalConfig p.definition.kind config =
      .ok p.definition.config := by
  obtain ⟨o, -, index, hread⟩ := exists_ofValue?_of_listOf h hp
  rw [FieldDef.ofValue?_eq rfl, Outcome.bind_eq_ok_iff] at hread
  obtain ⟨header, -, hread⟩ := hread
  cases header with
  | none => cases hread
  | some f =>
    simp only [Outcome.bind_eq_ok_iff, Outcome.pure_eq_ok_iff, Option.some.injEq] at hread
    obtain ⟨config, hconfig, hp⟩ := hread
    rw [← hp]
    exact ⟨_, hconfig⟩

end PresentedField

namespace Relation

theorem hasResult_userField? {p : PresentedField} {config : Obj}
    (h : FieldDef.normalConfig p.definition.kind config = .ok p.definition.config) :
    HasResult (userField? (.obj p.toObj)) := by
  have htype : Obj.get p.toObj "type" = .str p.definition.kind.name := rfl
  have hconfig : Obj.getObj p.toObj "config" = p.definition.config := rfl
  simp only [userField?, Value.asObj?, htype, hconfig]
  split
  · next hkind _ =>
    have hname : p.definition.kind.name = "relation_user" := beq_iff_eq.mp hkind
    have hkind : p.definition.kind = .relationUser := by
      cases hk : p.definition.kind <;> simp_all [FieldKind.name]
    rw [hkind, FieldDef.normalConfig_of_ne (by decide)] at h
    refine Outcome.hasResult_bind_pure.mpr ?_
    exact UserReference.hasResult_ofConfig.mpr (UserReference.isReadable_of_normalConfig h)
  · exact hasResult_ok _

/-- Of fields that have been read it can always be said which ones refer to users. -/
theorem hasResult_userFields {stored : List Obj} {fields : List PresentedField}
    (h : PresentedField.listOf stored = .ok fields) :
    HasResult (userFields (fields.map fun f => .obj f.toObj)) := by
  refine Outcome.hasResult_bind_pure.mpr (Outcome.hasResult_mapM.mpr fun v hv => ?_)
  obtain ⟨p, hp, rfl⟩ := List.mem_map.mp hv
  obtain ⟨config, hconfig⟩ := PresentedField.exists_normalConfig_of_listOf h hp
  exact hasResult_userField? hconfig

end Relation

namespace Service

variable {mail : Format.MailReader} {w : World} {typeId : String} {stored : List StoredField}

/-- Fields that can be read are enough to show an entry. -/
theorem isShowable_of_listOf {fields : List PresentedField}
    (h : PresentedField.listOf (stored.map StoredField.toObj) = .ok fields) :
    IsShowable typeId stored := by
  obtain ⟨settings, hsettings⟩ := Relation.hasResult_userFields h
  exact .inr ⟨fields, settings, h, hsettings⟩

/-- An entry whose values can be prepared can be shown. -/
theorem Prepares.isShowable {views : List Obj} {role : Value} {o : Obj} {values : EntryValues}
    (h : Prepares mail stored views role o values) : IsShowable typeId stored := by
  cases h with
  | intro _ _ hfields _ _ _ => exact isShowable_of_listOf hfields

theorem hasResult_resolveOne {t : ContentType} (ht : w.findType? typeId = some t)
    (h : IsShowable typeId (w.fieldsOf t.id)) (entry : Obj) :
    HasResult ((resolveOne Memory.stores typeId entry).run w).1 := by
  obtain ⟨shown, hshown⟩ := (exists_run_resolveOne_iff ht entry).mpr h
  exact ⟨shown, by rw [hshown]⟩

/-! ### Writing that ends in a fault -/

open Action (FailsCleanly)

/-- The content type that a name is taken for has been found. -/
theorem exists_of_contentType_eq_ok {name : String} {record : Obj}
    (h : ((contentType Memory.stores name).run w).1 = .ok record) :
    ∃ t, w.findType? name = some t ∧ t.toObj = record := by
  rw [run_contentType] at h
  cases ht : w.findType? name with
  | none =>
    rw [ht] at h
    cases h
  | some t =>
    rw [ht] at h
    exact ⟨t, rfl, Except.ok.inj h⟩

/-- What is done with a content type that is named goes on from the type that is found. -/
theorem failsCleanly_contentType {α : Type} {name : String} {f : Obj → Action World α}
    (hf : ∀ t, w.findType? name = some t → FailsCleanly (f t.toObj) w) :
    FailsCleanly (contentType Memory.stores name >>= f) w := by
  refine .bind_of_isReadOnly (isReadOnly_contentType Memory.isReading_stores name)
    fun record hrecord => ?_
  obtain ⟨t, ht, rfl⟩ := exists_of_contentType_eq_ok hrecord
  exact hf t ht

/-- What is done with an entry that is named goes on from the entry that is found. -/
theorem failsCleanly_requireEntry {α : Type} {name : Value} {f : Obj → Action World α}
    (hf : ∀ e, Memory.entryNamed? w typeId name = some e → FailsCleanly (f e.toObj) w) :
    FailsCleanly (requireEntry Memory.stores typeId name >>= f) w := by
  refine .bind_of_isReadOnly (isReadOnly_requireEntry Memory.isReading_stores typeId name)
    fun record hrecord => ?_
  rw [run_requireEntry] at hrecord
  cases h : Memory.entryNamed? w typeId name with
  | none =>
    rw [h] at hrecord
    cases hrecord
  | some e =>
    rw [h] at hrecord
    cases hrecord
    exact hf e h

/-- What is done with values that have been prepared can count on entries being shown. -/
theorem failsCleanly_prepareWith {α : Type} {t : ContentType} {request role : Value}
    {f : EntryValues → Action World α} (ht : w.findType? typeId = some t)
    (hf : ∀ values, IsShowable typeId (w.fieldsOf t.id) → FailsCleanly (f values) w) :
    FailsCleanly (prepareWith mail Memory.stores typeId request role >>= f) w := by
  have hreads := isReadOnly_prepareWith Memory.isReading_stores mail typeId request role
  refine .bind_of_isReadOnly hreads fun values hvalues => ?_
  have hrun := hreads.run_eq w
  rw [hvalues] at hrun
  obtain ⟨-, o, -, hprepares⟩ := (run_prepareWith_eq_ok_iff ht).mp hrun
  exact hf values hprepares.isShowable

theorem failsCleanly_storesCreateEntry (values : EntryValues) :
    FailsCleanly (Memory.stores.createEntry typeId values) w := by
  intro e he
  cases htaken : w.entries.slugTaken typeId values.slug none <;>
    simp_all [Memory.stores, Memory.createEntry, Except.map]

theorem failsCleanly_storesUpdateEntry (id : String) (values : EntryValues) :
    FailsCleanly (Memory.stores.updateEntry typeId id values) w := by
  intro e he
  cases hfound : w.entries.find? typeId id with
  | none => simp_all [Memory.stores, Memory.updateEntry?]
  | some entry =>
    cases htaken : w.entries.slugTaken typeId values.slug (some id) <;>
      simp_all [Memory.stores, Memory.updateEntry?, Except.map]

/-- An entry that cannot be made leaves the world as it was. -/
theorem failsCleanly_createEntryWith (hw : w.Sound) (mail : Format.MailReader) (name : String)
    (request role : Value) :
    FailsCleanly (createEntryWith mail Memory.stores name request role) w := by
  refine failsCleanly_contentType fun t ht => ?_
  have hid : w.findType? t.id = some t := hw.types.findType?_id (World.mem_of_findType? ht)
  refine failsCleanly_prepareWith hid fun values hshow => ?_
  refine .bind_of_hasResult (failsCleanly_storesCreateEntry values) fun entry w' hrun => ?_
  obtain ⟨-, -, rfl⟩ := run_storesCreateEntry_eq_ok_iff.mp hrun
  exact hasResult_resolveOne (w := w.withNew t.id values) hid hshow entry

/-- An entry that cannot be changed leaves the world as it was. -/
theorem failsCleanly_updateEntryWith (hw : w.Sound) (mail : Format.MailReader) (name : String)
    (entryName request role : Value) :
    FailsCleanly (updateEntryWith mail Memory.stores name entryName request role) w := by
  refine failsCleanly_contentType fun t ht => failsCleanly_requireEntry fun e hname => ?_
  have hid : w.findType? t.id = some t := hw.types.findType?_id (World.mem_of_findType? ht)
  have he := find?_of_entryNamed? hw.entries hname
  refine failsCleanly_prepareWith hid fun values hshow => ?_
  refine .bind_of_hasResult (failsCleanly_storesUpdateEntry _ values) fun changed w' hrun => ?_
  obtain ⟨-, rfl, rfl⟩ := (run_storesUpdateEntry_eq_ok_iff he).mp hrun
  exact hasResult_resolveOne (w := w.withChanged e values) hid hshow _

/-- An entry that cannot be taken out leaves the world as it was. -/
theorem failsCleanly_deleteEntry (hw : w.Sound) (name : String) (entryName : Value) :
    FailsCleanly (deleteEntry Memory.stores name entryName) w := by
  refine failsCleanly_contentType fun t ht => failsCleanly_requireEntry fun e hname => ?_
  have he : w.entries.find? t.id e.id = some e := find?_of_entryNamed? hw.entries hname
  have hdelete : (Memory.stores.deleteEntry t.id e.id).run w =
      (.ok true, { w with entries := w.entries.delete t.id e.id }) := by
    simp [Memory.stores, Memory.deleteEntry, he, Except.map]
  refine .bind_of_hasResult (.of_hasResult ⟨true, congrArg Prod.fst hdelete⟩) fun found w' hrun => ?_
  obtain ⟨hfound, -⟩ := Prod.mk.inj (hdelete.symm.trans hrun)
  obtain rfl := Except.ok.inj hfound
  exact hasResult_ok _

end Service

end ContentEngine
