import ContentEngine.Proofs.Server.Steps

/-!
# Writing through the service

What is stored of a request is told by `Prepares`, stage by stage: the data, the status, and the
title with the slug. An entry is made or changed exactly if its values can be prepared, its slug is
free, and it can be shown (`run_createEntryWith_eq_ok_iff`, `run_updateEntryWith_eq_ok_iff`).
-/

namespace ContentEngine

variable {mail : Format.MailReader} {w w' : World} {t : ContentType} {e : Entry}
variable {typeName typeId : String} {request role : Value} {values : EntryValues} {shown : Obj}

/-- The world with one more entry of a type. -/
def World.withNew (w : World) (typeId : String) (values : EntryValues) : World :=
  { w with
    origin := w.origin.issue
    entries := w.entries.add (w.newEntry typeId values) }

/-- The world in which an entry has other values, and a new version of it keeps what it was. -/
def World.withChanged (w : World) (e : Entry) (values : EntryValues) : World :=
  { w with
    origin := w.origin.issue
    entries := w.entries.replace e.id (w.changedEntry e values) (w.newVersion e.id e) }

theorem World.find?_withNew (w : World) (typeId : String) (values : EntryValues) :
    (w.withNew typeId values).entries.find? typeId (w.newEntry typeId values).id =
      some (w.newEntry typeId values) := by
  rw [EntryStore.find?_eq_some_iff, World.withNew, EntryStore.get?_add, if_pos rfl]
  exact ⟨rfl, rfl⟩

theorem World.find?_withChanged (values : EntryValues)
    (he : w.entries.find? typeId e.id = some e) :
    (w.withChanged e values).entries.find? typeId e.id = some (w.changedEntry e values) := by
  rw [EntryStore.find?_eq_some_iff, World.withChanged, EntryStore.get?_replace, if_pos rfl]
  exact ⟨rfl, (EntryStore.find?_eq_some_iff.mp he).2⟩

namespace Service

/-! ### What is stored of a request -/

/-- The records of the views of a type, in their order. -/
def viewsOf (w : World) (typeId : String) : List Obj :=
  ((w.views.filter fun v => v.typeId == typeId).mergeSort StoredView.le).map StoredView.toObj

/-- Whether a request gives some values to an entry of a type with some fields and views, for a
writer in some role. -/
inductive Prepares (mail : Format.MailReader) (stored : List StoredField) (views : List Obj)
    (role : Value) (request : Obj) : EntryValues → Prop
  | intro {given : Value} {status title slug : String} {fields : List PresentedField}
      {data core : Obj} :
      requestedData request = .ok given →
      requestedStatus request = .ok status →
      PresentedField.listOf (stored.map StoredField.toObj) = .ok fields →
      Entry.normalDataWith mail (.list (fields.map fun f => .obj f.toObj)) given = .ok data →
      EditorView.effectiveCore views role = .ok core →
      titleAndSlug core (Obj.get request "title") (Obj.get request "slug") (.obj data) =
        .ok (title, slug) →
      Prepares mail stored views role request ⟨.str title, slug, .str status, .obj data⟩

theorem run_prepareWith_eq_ok_iff (ht : w.findType? typeId = some t) :
    (prepareWith mail Memory.stores typeId request role).run w = (.ok values, w') ↔
      w = w' ∧ ∃ o, request.asObj? = some o ∧
        Prepares mail (w.fieldsOf t.id) (viewsOf w typeId) role o values := by
  have hfields : (Memory.stores.fieldsOf typeId).run w =
      (PresentedField.listOf ((w.fieldsOf t.id).map StoredField.toObj), w) :=
    Memory.run_getFields ht
  have hviews : (Memory.stores.listViews typeId).run w = (.ok (viewsOf w typeId), w) := rfl
  rw [prepareWith]
  cases ho : request.asObj? with
  | none => simp
  | some o =>
    simp only [Action.run_bind_eq_ok_iff, Action.run_lift_eq_ok_iff, Action.run_pure_eq_ok_iff,
      hfields, Prod.mk.injEq, and_assoc, exists_and_left, exists_eq_left']
    constructor
    · rintro ⟨given, hgiven, status, hstatus, fields, hlist, data, hdata, views, after, hrun, core,
        hcore, ⟨title, slug⟩, htitle, rfl, rfl⟩
      rw [hviews, Prod.mk.injEq, Except.ok.injEq] at hrun
      obtain ⟨rfl, rfl⟩ := hrun
      exact ⟨rfl, o, rfl, .intro hgiven hstatus hlist hdata hcore htitle⟩
    · rintro ⟨rfl, o', ho', hprepares⟩
      obtain rfl := Option.some.inj ho'
      cases hprepares with
      | intro hgiven hstatus hlist hdata hcore htitle =>
        exact ⟨_, hgiven, _, hstatus, _, hlist, _, hdata, _, w, hviews, _, hcore, _, htitle, rfl,
          rfl⟩

/-! ### What is shown of an entry -/

/-- Whether the entries of a type with some fields can be shown with what is known of their
users. -/
def IsShowable (typeId : String) (stored : List StoredField) : Prop :=
  typeId = "" ∨ ∃ fields settings,
    PresentedField.listOf (stored.map StoredField.toObj) = .ok fields ∧
      Relation.userFields (fields.map fun f => .obj f.toObj) = .ok settings

/-- Users are looked up without a fault: if that fails, none is known. -/
theorem exists_run_lookUpUsers (ids : List String) (w : World) :
    ∃ users, (lookUpUsers Memory.stores ids).run w = (.ok users, w) := by
  have hsame := isReadOnly_lookUpUsers Memory.isReading_stores ids w
  have hok : ∃ users, ((lookUpUsers Memory.stores ids).run w).1 = .ok users := by
    rw [lookUpUsers]
    split
    · exact ⟨[], rfl⟩
    · rw [Action.run_tryCatch]
      split
      · next users _ _ => exact ⟨users, rfl⟩
      · exact ⟨[], rfl⟩
  obtain ⟨users, husers⟩ := hok
  exact ⟨users, Prod.ext husers hsame⟩

/-- What is known of users is found exactly if it can be said which fields refer to users. -/
theorem exists_run_resolveOne_iff (ht : w.findType? typeId = some t) (entry : Obj) :
    (∃ shown, (resolveOne Memory.stores typeId entry).run w = (.ok shown, w)) ↔
      IsShowable typeId (w.fieldsOf t.id) := by
  have hfields : (Memory.stores.fieldsOf typeId).run w =
      (PresentedField.listOf ((w.fieldsOf t.id).map StoredField.toObj), w) :=
    Memory.run_getFields ht
  simp only [resolveOne, userContext, IsShowable, Action.run_bind_eq_ok_iff]
  by_cases hid : typeId = ""
  · simp [hid]
  · simp only [hid, if_false, false_or, Action.run_bind_eq_ok_iff, Action.run_lift_eq_ok_iff,
      Action.run_pure_eq_ok_iff, hfields, Prod.mk.injEq, and_assoc, exists_and_left,
      exists_eq_left']
    constructor
    · rintro ⟨shown, context, after, ⟨fields, hlist, settings, hsettings, -⟩, -⟩
      exact ⟨fields, hlist, settings, hsettings⟩
    · rintro ⟨fields, hlist, settings, hsettings⟩
      obtain ⟨users, husers⟩ := exists_run_lookUpUsers
        (Relation.collectUsers (Obj.keys settings) ([entry].map .obj)) w
      exact ⟨_, _, w, ⟨fields, hlist, settings, hsettings, users, w, husers, rfl, rfl⟩, rfl, rfl⟩

/-- An entry is shown with its identifier. -/
theorem of_run_resolveOne {entry : Obj}
    (h : (resolveOne Memory.stores typeId entry).run w = (.ok shown, w')) :
    recordId shown = recordId entry ∧ w' = w := by
  have hsame := isReadOnly_resolveOne Memory.isReading_stores typeId entry w
  rw [h] at hsame
  rw [resolveOne, Action.run_bind_eq_ok_iff] at h
  obtain ⟨context, after, -, hshown⟩ := h
  rw [Action.run_pure_eq_ok_iff] at hshown
  refine ⟨?_, hsame⟩
  rw [← hshown.1, withUsers, recordId, recordId, Obj.get, Obj.get?_set, if_neg (by decide)]
  rfl

/-! ### Making and changing an entry -/

/-- What is done with a content type that is named has a result only if the type is there. -/
theorem exists_findType?_of_run {α : Type} {f : Obj → Action World α} {a : α}
    (h : (contentType Memory.stores typeName >>= f).run w = (.ok a, w')) :
    ∃ t, w.findType? typeName = some t := by
  rw [Action.run_bind, run_contentType] at h
  cases hfind : w.findType? typeName with
  | none =>
    rw [hfind] at h
    cases h
  | some t => exact ⟨t, rfl⟩

/-- The entry that a name finds in memory, or the refusal of a name that finds none. -/
theorem run_requireEntry (typeId : String) (name : Value) (w : World) :
    (requireEntry Memory.stores typeId name).run w =
      ((Memory.entryNamed? w typeId name).elim (.error (noSuchEntry name))
        (fun e => .ok e.toObj), w) := by
  have hget : (Memory.stores.getEntry typeId name).run w =
      (.ok ((Memory.entryNamed? w typeId name).map Entry.toObj), w) := by
    simp only [Memory.stores, Action.run_bind, Memory.run_entryNamed, Action.run_pure]
  rw [requireEntry, Action.run_bind, hget]
  cases Memory.entryNamed? w typeId name <;> rfl

/-- What is done with an entry that is named has a result only if the entry is there. -/
theorem exists_entryNamed?_of_run {α : Type} {name : Value} {f : Obj → Action World α} {a : α}
    (h : (requireEntry Memory.stores typeId name >>= f).run w = (.ok a, w')) :
    ∃ e, Memory.entryNamed? w typeId name = some e := by
  rw [Action.run_bind, run_requireEntry] at h
  cases hname : Memory.entryNamed? w typeId name with
  | none =>
    rw [hname] at h
    cases h
  | some e => exact ⟨e, rfl⟩

theorem find?_of_entryNamed? (hw : w.EntriesSound) {name : Value}
    (h : Memory.entryNamed? w typeId name = some e) : w.entries.find? typeId e.id = some e :=
  EntryStore.find?_eq_some_iff.mpr
    ((EntryStore.mem_ofType_iff hw.sound).mp (Memory.mem_of_entryNamed? h))

theorem run_storesCreateEntry_eq_ok_iff {record : Obj} :
    (Memory.stores.createEntry typeId values).run w = (.ok record, w') ↔
      w.entries.slugTaken typeId values.slug none = false ∧
        (w.newEntry typeId values).toObj = record ∧ w.withNew typeId values = w' := by
  cases htaken : w.entries.slugTaken typeId values.slug none with
  | true => simp [Memory.stores, Memory.createEntry, htaken]
  | false =>
    simp [Memory.stores, Memory.createEntry, htaken, World.newEntry, World.withNew, Except.map]

theorem run_storesUpdateEntry_eq_ok_iff {record : Option Obj}
    (h : w.entries.find? typeId e.id = some e) :
    (Memory.stores.updateEntry typeId e.id values).run w = (.ok record, w') ↔
      w.entries.slugTaken typeId values.slug (some e.id) = false ∧
        some (w.changedEntry e values).toObj = record ∧ w.withChanged e values = w' := by
  cases htaken : w.entries.slugTaken typeId values.slug (some e.id) with
  | true => simp [Memory.stores, Memory.updateEntry?, h, htaken]
  | false =>
    simp [Memory.stores, Memory.updateEntry?, h, htaken, World.changedEntry, World.newVersion,
      World.withChanged, Except.map]

/-- An entry is made exactly if its values can be prepared, its slug is free, and it can be
shown. -/
theorem run_createEntryWith_eq_ok_iff (ht : w.findType? typeName = some t)
    (hid : w.findType? t.id = some t) :
    (createEntryWith mail Memory.stores typeName request role).run w = (.ok shown, w') ↔
      ∃ o values, request.asObj? = some o ∧
        Prepares mail (w.fieldsOf t.id) (viewsOf w t.id) role o values ∧
        w.entries.slugTaken t.id values.slug none = false ∧ w' = w.withNew t.id values ∧
        (resolveOne Memory.stores t.id (w.newEntry t.id values).toObj).run w' =
          (.ok shown, w') := by
  have hfound : (contentType Memory.stores typeName).run w = (.ok t.toObj, w) := by
    rw [run_contentType, ht, Option.elim_some]
  rw [createEntryWith, Action.run_bind, hfound]
  simp only [recordId_toObj, Action.run_bind_eq_ok_iff, run_prepareWith_eq_ok_iff hid,
    run_storesCreateEntry_eq_ok_iff]
  constructor
  · rintro ⟨values, _, ⟨rfl, o, ho, hprepares⟩, _, _, ⟨hfree, rfl, rfl⟩, hshown⟩
    obtain rfl := (of_run_resolveOne hshown).2
    exact ⟨o, values, ho, hprepares, hfree, rfl, hshown⟩
  · rintro ⟨o, values, ho, hprepares, hfree, rfl, hshown⟩
    exact ⟨values, w, ⟨rfl, o, ho, hprepares⟩, _, _, ⟨hfree, rfl, rfl⟩, hshown⟩

/-- An entry is changed exactly if its new values can be prepared, no other entry has its new slug,
and it can be shown. -/
theorem run_updateEntryWith_eq_ok_iff (ht : w.findType? typeName = some t)
    (hid : w.findType? t.id = some t) {name : Value}
    (hname : Memory.entryNamed? w t.id name = some e)
    (he : w.entries.find? t.id e.id = some e) :
    (updateEntryWith mail Memory.stores typeName name request role).run w = (.ok shown, w') ↔
      ∃ o values, request.asObj? = some o ∧
        Prepares mail (w.fieldsOf t.id) (viewsOf w t.id) role o values ∧
        w.entries.slugTaken t.id values.slug (some e.id) = false ∧ w' = w.withChanged e values ∧
        (resolveOne Memory.stores t.id (w.changedEntry e values).toObj).run w' =
          (.ok shown, w') := by
  have hfound : (contentType Memory.stores typeName).run w = (.ok t.toObj, w) := by
    rw [run_contentType, ht, Option.elim_some]
  have hrecord : recordId e.toObj = e.id := rfl
  rw [updateEntryWith, Action.run_bind, hfound]
  simp only [recordId_toObj]
  rw [Action.run_bind, run_requireEntry, hname, Option.elim_some]
  simp only [hrecord, Action.run_bind_eq_ok_iff, run_prepareWith_eq_ok_iff hid]
  constructor
  · rintro ⟨values, _, ⟨rfl, o, ho, hprepares⟩, record, after, hupdate, hshown⟩
    obtain ⟨hfree, rfl, rfl⟩ := (run_storesUpdateEntry_eq_ok_iff he).mp hupdate
    obtain rfl := (of_run_resolveOne hshown).2
    exact ⟨o, values, ho, hprepares, hfree, rfl, hshown⟩
  · rintro ⟨o, values, ho, hprepares, hfree, rfl, hshown⟩
    exact ⟨values, w, ⟨rfl, o, ho, hprepares⟩, _, _,
      (run_storesUpdateEntry_eq_ok_iff he).mpr ⟨hfree, rfl, rfl⟩, hshown⟩

end Service

end ContentEngine
