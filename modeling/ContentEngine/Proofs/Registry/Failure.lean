import ContentEngine.Proofs.Registry.Reads

/-!
# Calls to the registry that fail

A call to the registry stores first and looks at the fields afterwards: a list of fields that comes
with a type is checked when the type has been stored, and what has been stored is read back for the
answer. So a call fails in two ways. If it is refused it has changed nothing; if its fields are at
fault it has written all that it writes (`registry_failure`).
-/

namespace ContentEngine

open Outcome (HasResult)

variable {w w' : World}

/-- Whether the list of fields that a request carries is in order, if it carries one. -/
def FieldsAccepted (request : Value) : Prop :=
  ∀ items, Obj.get request.members "fields" = .list items →
    HasResult (FieldInput.listOf (.list items))

/-- Whether nothing is wrong with the fields that are left to a call when it has written: a list of
fields is in order, and the fields that are read back can be read. -/
def RegistryCall.FieldsFine (w w' : World) : RegistryCall → Prop
  | create request => FieldsAccepted request ∧ w'.FieldsReadable w.origin.issue.latest
  | update name request =>
    FieldsAccepted request ∧ ∀ t, w.findType? name = some t → w'.FieldsReadable t.id
  | replaceFields name _ => ∀ t, w.findType? name = some t → w'.FieldsReadable t.id
  | delete _ => True

namespace World

theorem FieldsReplaced.typeIds_eq {t : ContentType} {inputs : List FieldInput}
    (h : w.FieldsReplaced t inputs w') : w'.typeIds = w.typeIds := by
  obtain ⟨hrun⟩ := h
  obtain ⟨⟨issued, rfl⟩, -⟩ := Memory.of_run_recordFields hrun
  rw [typeIds_putType]
  rfl

theorem FieldsTaken.typeIds_eq {t : ContentType} {request : Value}
    (h : w.FieldsTaken t request w') : w'.typeIds = w.typeIds := by
  cases h with
  | replaced _ _ hfields => exact hfields.typeIds_eq
  | left _ => rfl

/-- A type is still there when its fields have been replaced. -/
theorem RegistrySound.exists_findType? (h : w'.RegistrySound) {t : ContentType} (ht : t ∈ w.types)
    (hids : w'.typeIds = w.typeIds) : ∃ t', w'.findType? t.id = some t' ∧ t'.id = t.id := by
  have hmem : t.id ∈ w'.typeIds := hids ▸ List.mem_map_of_mem ht
  obtain ⟨t', ht', hid⟩ := List.mem_map.mp hmem
  exact ⟨t', hid ▸ h.types.findType?_id ht', hid⟩

end World

namespace Memory

/-- Fields that are in order are stored, and the call has a result if they can be read. -/
theorem hasResult_replaceFields (h : w.RegistrySound) {name : String} {raw : Value}
    {t : ContentType} {inputs : List FieldInput} (ht : w.findType? name = some t)
    (hinputs : FieldInput.listOf raw = .ok inputs) (hfields : w.FieldsReplaced t inputs w') :
    HasResult ((replaceFields name raw).run w).1 ↔ w'.FieldsReadable t.id := by
  have hsound : w'.RegistrySound := by
    have hreaches := reaches_replaceFields name raw w
    rw [run_replaceFields ht hinputs hfields, (isReadOnly_getFields t.id).run_eq] at hreaches
    exact h.ofReaches hreaches
  obtain ⟨t', ht', hid⟩ := hsound.exists_findType? (World.mem_of_findType? ht) hfields.typeIds_eq
  rw [run_replaceFields ht hinputs hfields, hasResult_getFields hsound ht', hid]

/-- A request for fields has a result exactly if a list of fields is in order, as long as the fields
that are left behind can be read. -/
theorem hasResult_replaceRequested (h : w.RegistrySound) {t : ContentType} {request : Value}
    (ht : t ∈ w.types) (htaken : w.FieldsTaken t request w') (hread : w'.FieldsReadable t.id) :
    HasResult ((replaceRequested t.id request).run w).1 ↔ FieldsAccepted request := by
  have hfind := h.types.findType?_id ht
  by_cases hgiven : ∃ items, Obj.get request.members "fields" = .list items
  · obtain ⟨items, hitems⟩ := hgiven
    simp only [FieldsAccepted, hitems, Value.list.injEq, forall_eq']
    cases hinputs : FieldInput.listOf (.list items) with
    | error e =>
      rw [run_replaceRequested_of_error hfind hitems hinputs]
      simp
    | ok inputs =>
      obtain ⟨u, hfields⟩ := w.exists_fieldsReplaced t inputs
      obtain rfl : u = w' := (World.FieldsTaken.replaced hitems hinputs hfields).unique htaken
      obtain ⟨fields, hfound⟩ := (hasResult_replaceFields h hfind hinputs hfields).mpr hread
      rw [replaceRequested, hitems, Action.hasResult_run_bind]
      exact iff_of_true ⟨fields, hfound, Outcome.hasResult_ok _⟩ (Outcome.hasResult_ok _)
  · rw [not_exists] at hgiven
    rw [run_replaceRequested_of_none t.id hgiven]
    exact iff_of_true (Outcome.hasResult_ok _) fun items hitems => absurd hitems (hgiven items)

/-- What follows the storing of a type has a result if nothing is wrong with the fields. -/
theorem hasResult_tail (h : w.RegistrySound) {t : ContentType} {request : Value}
    (ht : t ∈ w.types) (htaken : w.FieldsTaken t request w') :
    HasResult ((replaceRequested t.id request >>= fun _ => getType? t.id true).run w).1 ↔
      FieldsAccepted request ∧ w'.FieldsReadable t.id := by
  have hleft : ((replaceRequested t.id request).run w).2 = w' :=
    (fieldsTaken_replaceRequested request (h.types.findType?_id ht)).unique htaken
  have hsound : w'.RegistrySound := h.ofReaches (hleft ▸ reaches_replaceRequested t.id request w)
  obtain ⟨t', ht', hid⟩ := hsound.exists_findType? ht htaken.typeIds_eq
  rw [Action.hasResult_run_bind, hleft, hasResult_getType? hsound ht', hid, exists_and_right]
  exact and_congr_left fun hread => hasResult_replaceRequested h ht htaken hread

end Memory

namespace RegistryCall

/-- A call that writes has an answer exactly if nothing is wrong with the fields then. -/
theorem hasResult_iff_of_writes (h : w.RegistrySound) {c : RegistryCall} (hwrites : c.Writes w w') :
    HasResult (c.action.run w).1 ↔ c.FieldsFine w w' := by
  cases hwrites with
  | @create request values _ hvalues hfree htaken =>
    have hsound := h.ofReaches (World.Step.addType hvalues hfree).reaches
    have hmem : w.newType values ∈ (w.issue.addType (w.newType values)).types :=
      List.mem_append_right _ (List.mem_singleton_self _)
    rw [action, Action.run_discard, Outcome.hasResult_map, Memory.run_createType hvalues hfree]
    exact Memory.hasResult_tail hsound hmem htaken
  | @update name request t values _ ht hvalues hfree htaken =>
    have hmem := World.mem_of_findType? ht
    have hsound := h.ofReaches (World.Step.changeType hmem hvalues hfree).reaches
    have hfine : (update name request).FieldsFine w w' ↔
        FieldsAccepted request ∧ w'.FieldsReadable t.id := by
      simp [FieldsFine, ht]
    have hkept : ¬(values.slug ≠ t.values.slug ∧ w.typeSlugTaken values.slug t.id = true) := by
      rintro ⟨hslug, htaken⟩
      simp [(hfree hslug).1] at htaken
    have hempty : ¬(values.slug ≠ t.values.slug ∧ 0 < w.entryCount t.id) := by
      rintro ⟨hslug, hcount⟩
      simp [(hfree hslug).2] at hcount
    rw [action, Action.run_discard, Outcome.hasResult_map, Memory.run_updateType ht hvalues,
      if_neg hkept, if_neg hempty, hfine]
    exact Memory.hasResult_tail (t := w.changedType t values) hsound
      (World.changedType_mem hmem values) htaken
  | @replaceFields name raw t inputs _ ht hinputs hfields =>
    have hfine : (replaceFields name raw).FieldsFine w w' ↔ w'.FieldsReadable t.id := by
      simp [FieldsFine, ht]
    rw [action, Action.run_discard, Outcome.hasResult_map, hfine]
    exact Memory.hasResult_replaceFields h ht hinputs hfields
  | @delete name t ht =>
    rw [action, Action.run_discard, Outcome.hasResult_map, Memory.deleteType, Action.run_bind,
      Memory.run_requireType_of_some ht]
    exact iff_of_true (Outcome.hasResult_ok _) trivial

/-- A call has an answer exactly if it writes and nothing is wrong with the fields then. -/
theorem hasResult_action_iff (h : w.RegistrySound) (c : RegistryCall) :
    HasResult (c.action.run w).1 ↔ ∃ w', c.Writes w w' ∧ c.FieldsFine w w' := by
  constructor
  · intro hresult
    rcases settles_action h c with hwrites | ⟨-, e, hrun⟩
    · exact ⟨_, hwrites, (hasResult_iff_of_writes h hwrites).mp hresult⟩
    · simp [hrun] at hresult
  · rintro ⟨w', hwrites, hfine⟩
    exact (hasResult_iff_of_writes h hwrites).mpr hfine

/-- A type that is made is one more type. -/
theorem length_types_of_writes {request : Value} (h : (create request).Writes w w') :
    w'.types.length = w.types.length + 1 := by
  obtain ⟨-, -, htaken⟩ := h
  have hids := congrArg List.length htaken.typeIds_eq
  simpa [World.typeIds, World.addType, World.issue] using hids

end RegistryCall

/-- In every world that calls to the registry lead to, a call either writes all that it writes or is
refused and changes nothing. It has an answer if it writes and nothing is wrong with its fields. So
one that fails leaves types and fields as they are exactly if it is refused or writes what is there
already; to make a type is never that. -/
theorem registry_failure {w : World} (h : w.RegistryReached) (c : RegistryCall) :
    (∀ w', c.next w = w' ↔ c.Writes w w' ∨ (∀ u, ¬c.Writes w u) ∧ w' = w) ∧
      (HasResult (c.action.run w).1 ↔ ∃ w', c.Writes w w' ∧ c.FieldsFine w w') ∧
      (¬HasResult (c.action.run w).1 →
        ((c.next w).types = w.types ∧ (c.next w).fields = w.fields ↔
          ∀ w', c.Writes w w' → w'.types = w.types ∧ w'.fields = w.fields)) ∧
      ∀ request w', c = .create request → c.Writes w w' → w'.types ≠ w.types := by
  refine ⟨fun w' => c.next_eq_iff h.sound, c.hasResult_action_iff h.sound, fun _ => ?_, ?_⟩
  · rcases (c.next_eq_iff h.sound).mp rfl with hwrites | ⟨hnone, hsame⟩
    · constructor
      · intro hkept w' hwrites'
        rw [hwrites'.unique hwrites]
        exact hkept
      · exact fun hall => hall _ hwrites
    · rw [hsame]
      exact iff_of_true ⟨rfl, rfl⟩ fun w' hwrites => absurd hwrites (hnone w')
  · rintro request w' rfl hwrites htypes
    have hlength := RegistryCall.length_types_of_writes hwrites
    rw [htypes] at hlength
    omega

/-- To make the type of albums a second time is refused, and changes nothing. -/
theorem second_albums_refused : albumWorld.RegistryReached ∧
    ¬HasResult ((RegistryCall.create albumRequest).action.run albumWorld).1 ∧
    (RegistryCall.create albumRequest).next albumWorld = albumWorld := by
  have hnone : ∀ u, ¬(RegistryCall.create albumRequest).Writes albumWorld u := by
    rintro u ⟨hvalues, hfree⟩
    obtain rfl := Except.ok.inj (prepare_albumRequest.symm.trans hvalues)
    have htaken : albumWorld.typeSlugTaken albumValues.slug "" = true := rfl
    simp [htaken] at hfree
  obtain ⟨hnext, hresult, -⟩ := registry_failure registryReached_albumWorld (.create albumRequest)
  refine ⟨registryReached_albumWorld, ?_, (hnext albumWorld).mpr (.inr ⟨hnone, rfl⟩)⟩
  rw [hresult]
  rintro ⟨u, hwrites, -⟩
  exact hnone u hwrites

/-- A request for the type of albums with a field that has no label. -/
def unlabelledRequest : Value :=
  .obj [("label_singular", .str "Album"), ("fields", .list [.obj [("key", .str "tracks")]])]

/-- What is wrong with a field of tracks that has no label. -/
def labelMissing : Fault :=
  .validation "Field label is required" (some "fields[0].label")
    (.obj [("field_key", .str "tracks")])

/-- A request for albums whose field has no label fails, and the type of albums is there. -/
theorem albums_left_behind : World.empty.RegistryReached ∧
    ((RegistryCall.create unlabelledRequest).action.run .empty).1 = .error labelMissing ∧
    World.empty.types = [] ∧
    ((RegistryCall.create unlabelledRequest).next .empty).types = [albumType] := by
  have hvalues : ContentType.prepare unlabelledRequest [] = .ok albumValues :=
    Outcome.eq_ok_of_toOption (by decide +kernel)
  have hlist : FieldInput.listOf (.list [.obj [("key", .str "tracks")]]) =
      .error labelMissing := rfl
  have hrequested : (Memory.replaceRequested albumType.id unlabelledRequest).run albumWorld =
      (.error labelMissing, albumWorld) :=
    Memory.run_replaceRequested_of_error rfl rfl hlist
  have hrun : (Memory.createType unlabelledRequest).run .empty =
      (.error labelMissing, albumWorld) := by
    rw [albumType, albumWorld, albumType] at hrequested
    rw [Memory.run_createType hvalues rfl, Action.run_bind, hrequested]
    rfl
  rw [RegistryCall.next, RegistryCall.action, Action.run_discard, hrun]
  exact ⟨registryReached_empty, rfl, rfl, rfl⟩

end ContentEngine
