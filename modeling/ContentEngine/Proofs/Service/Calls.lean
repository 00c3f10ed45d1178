import ContentEngine.Proofs.EntryStore.Order
import ContentEngine.Proofs.Service.Outage

/-!
# What a call of the service does to the world

A call of the entry service makes one call to the store of entries at most, and that is about the
type that it names (`ServiceCall.callsOnce_next`). So it changes nothing but entries, and no entry
of another type (`EntryCall.keeps_next`).
-/

namespace ContentEngine

open ContentEngine.Action (IsReadOnly)

variable {w : World}

/-! ### Calls to the store of entries -/

namespace EntryCall

/-- The type that a call to the store of entries is about. -/
def typeId : EntryCall → String
  | create typeId _ | update typeId _ _ | delete typeId _ | deleteType typeId => typeId

/-- A call keeps the entries in the order in which they were made. -/
theorem ordered_next (hw : w.EntriesSound) (h : w.entries.Ordered) (c : EntryCall) :
    (c.next w).entries.Ordered := by
  cases c with
  | create typeId values =>
    rw [next, run_create]
    split
    · exact h
    · exact h.add hw.sound hw.has_latest
  | update typeId id values =>
    rw [next]
    cases hfind : w.entries.find? typeId id with
    | none => rwa [run_update_of_find?_eq_none values hfind]
    | some e =>
      rw [run_update values hfind]
      split
      · exact h
      · exact h.replace id _ _
  | delete typeId id => exact h.delete typeId id
  | deleteType typeId => exact h.deleteType typeId

/-- A call leaves the entries of every other type as they are, with their versions. -/
theorem keeps_next (hw : w.EntriesSound) {c : EntryCall} {typeId : String}
    (hne : c.typeId ≠ typeId) : w.entries.Keeps typeId (c.next w).entries := by
  cases c with
  | create other values =>
    rw [next, run_create]
    split
    · exact .refl typeId _
    · exact EntryStore.keeps_add hw.has_latest hne
  | update other id values =>
    rw [next]
    cases hfind : w.entries.find? other id with
    | none =>
      rw [run_update_of_find?_eq_none values hfind]
      exact .refl typeId _
    | some e =>
      obtain ⟨hget, htype⟩ := EntryStore.find?_eq_some_iff.mp hfind
      have hother : e.typeId ≠ typeId := htype ▸ hne
      rw [run_update values hfind]
      split
      · exact .refl typeId _
      · exact EntryStore.keeps_replace hw.sound _ hget rfl hother
  | delete other id => exact EntryStore.keeps_delete hw.sound id hne
  | deleteType other => exact EntryStore.keeps_deleteType hw.sound hne

end EntryCall

/-! ### Calls of the service -/

/-- Whether a world is the one that a call to the store of entries leaves behind, about the type
that a name finds, or still the same one. -/
def World.CallsOnce (w : World) (typeName : String) (next : World) : Prop :=
  next = w ∨ ∃ t call, w.findType? typeName = some t ∧ EntryCall.typeId call = t.id ∧
    next = call.next w

section CallsOnce

variable {α β : Type} {typeName : String}

theorem callsOnce_of_isReadOnly {x : Action World α} (hx : IsReadOnly x) (typeName : String)
    (w : World) : w.CallsOnce typeName (x.run w).2 :=
  .inl (hx w)

/-- What follows an action that only reads goes on from the same world. -/
theorem callsOnce_bind_of_isReadOnly {x : Action World α} {f : α → Action World β}
    (hx : IsReadOnly x) (hf : ∀ a, w.CallsOnce typeName ((f a).run w).2) :
    w.CallsOnce typeName ((x >>= f).run w).2 := by
  rw [Action.run_bind, hx.run_eq w]
  cases (x.run w).1 with
  | error e => exact .inl rfl
  | ok a => exact hf a

/-- What is done with a type that is named goes on from the type that is found. -/
theorem callsOnce_contentType {f : Obj → Action World α}
    (hf : ∀ t, w.findType? typeName = some t → w.CallsOnce typeName ((f t.toObj).run w).2) :
    w.CallsOnce typeName ((Service.contentType Memory.stores typeName >>= f).run w).2 := by
  rw [Action.run_bind, Service.run_contentType]
  cases ht : w.findType? typeName with
  | none => exact .inl rfl
  | some t => exact hf t ht

/-- After a call to the store of entries the world is only read. -/
theorem callsOnce_of_call {t : ContentType} (ht : w.findType? typeName = some t) {call : EntryCall}
    (hcall : call.typeId = t.id) {x : Action World α} (hx : (x.run w).2 = call.next w)
    {f : α → Action World β} (hf : ∀ a, IsReadOnly (f a)) :
    w.CallsOnce typeName ((x >>= f).run w).2 :=
  .inr ⟨t, call, ht, hcall, (IsReadOnly.snd_run_bind hf w).trans hx⟩

end CallsOnce

namespace Service

variable (mail : Format.MailReader) (typeName : String) (name request role : Value) (w : World)

theorem next_createEntry (typeId : String) (values : EntryValues) :
    ((Memory.stores.createEntry typeId values).run w).2 =
      (EntryCall.create typeId values).next w := by
  rw [EntryCall.next, EntryCall.action, Action.run_map]
  exact IsReadOnly.snd_run_bind (fun _ => .pure _) w

theorem next_updateEntry (typeId id : String) (values : EntryValues) :
    ((Memory.stores.updateEntry typeId id values).run w).2 =
      (EntryCall.update typeId id values).next w := by
  rw [EntryCall.next, EntryCall.action, Action.run_map]
  exact IsReadOnly.snd_run_bind (fun _ => .pure _) w

theorem callsOnce_createEntryWith :
    w.CallsOnce typeName ((createEntryWith mail Memory.stores typeName request role).run w).2 := by
  have hreading := Memory.isReading_stores
  refine callsOnce_contentType fun t ht => ?_
  refine callsOnce_bind_of_isReadOnly (isReadOnly_prepareWith hreading mail _ _ _) fun values => ?_
  exact callsOnce_of_call ht rfl (next_createEntry w t.id values)
    fun entry => isReadOnly_resolveOne hreading _ entry

theorem callsOnce_updateEntryWith :
    w.CallsOnce typeName
      ((updateEntryWith mail Memory.stores typeName name request role).run w).2 := by
  have hreading := Memory.isReading_stores
  refine callsOnce_contentType fun t ht => ?_
  refine callsOnce_bind_of_isReadOnly (isReadOnly_requireEntry hreading _ _) fun current => ?_
  refine callsOnce_bind_of_isReadOnly (isReadOnly_prepareWith hreading mail _ _ _) fun values => ?_
  refine callsOnce_of_call ht rfl (next_updateEntry w t.id _ values) fun changed => ?_
  cases changed with
  | none => exact .throw _
  | some entry => exact isReadOnly_resolveOne hreading _ entry

theorem callsOnce_deleteEntry :
    w.CallsOnce typeName ((deleteEntry Memory.stores typeName name).run w).2 := by
  refine callsOnce_contentType fun t ht => ?_
  refine callsOnce_bind_of_isReadOnly
    (isReadOnly_requireEntry Memory.isReading_stores _ _) fun current => ?_
  have hcall : ((Memory.stores.deleteEntry t.id (recordId current)).run w).2 =
      (EntryCall.delete t.id (recordId current)).next w := rfl
  refine callsOnce_of_call ht rfl hcall fun found => ?_
  cases found with
  | false => exact .throw _
  | true => exact .pure _

end Service

namespace ServiceCall

/-- The world after a call, whether or not it has failed. -/
def next (mail : Format.MailReader) (c : ServiceCall) (w : World) : World :=
  ((c.action mail).run w).2

/-- The name of the type that a call is about. -/
def typeName : ServiceCall → String
  | create typeName .. | update typeName .. | delete typeName _ | get typeName _
  | list typeName _ | versions typeName _ | options typeName _ => typeName

/-- A call of the service makes one call to the store of entries, about the type that it names, or
leaves the world as it is. -/
theorem callsOnce_next (mail : Format.MailReader) (c : ServiceCall) (w : World) :
    w.CallsOnce c.typeName (c.next mail w) := by
  have hreading := Memory.isReading_stores
  -- what is shown in the end is wrapped, which changes nothing
  have hshown {α : Type} {x : Action World α} {f : α → List Obj} :
      ((x >>= fun a => pure (f a)).run w).2 = (x.run w).2 :=
    IsReadOnly.snd_run_bind (fun _ => .pure _) w
  cases c with
  | create typeName request role =>
    rw [next, action, hshown]
    exact Service.callsOnce_createEntryWith mail typeName request role w
  | update typeName name request role =>
    rw [next, action, hshown]
    exact Service.callsOnce_updateEntryWith mail typeName name request role w
  | delete typeName name =>
    rw [next, action, hshown]
    exact Service.callsOnce_deleteEntry typeName name w
  | get typeName name =>
    rw [next, action, hshown]
    exact callsOnce_of_isReadOnly (Service.isReadOnly_getEntry hreading typeName name) _ w
  | list typeName withDisplay =>
    exact callsOnce_of_isReadOnly
      (Service.isReadOnly_listEntries hreading typeName withDisplay) _ w
  | versions typeName name =>
    exact callsOnce_of_isReadOnly (Service.isReadOnly_listVersions hreading typeName name) _ w
  | options typeName field =>
    rw [next, action, hshown]
    exact callsOnce_of_isReadOnly (Service.isReadOnly_options hreading typeName field) _ w

end ServiceCall

end ContentEngine
