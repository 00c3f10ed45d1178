import ContentEngine.Proofs.World.Fields

/-!
# Calls to the registry

A call to the registry of content types either is refused, and then changes nothing, or it writes.
`RegistryCall.Writes` says once what each call writes and what has been checked before; it does not
say whether the call has an answer. `RegistryCall.next_eq_iff` takes the calls to it.

`World.RegistryReached` are the worlds that calls lead to while the rest of the world may change as
well. What is known of the types and of the fields in them is kept by what calls write
(`World.RegistryReached.sound`).
-/

namespace ContentEngine

/-! ### What is written -/

namespace World

/-- What replacing the fields of a type by others comes down to: they are recorded under the type,
which has been changed at the present time. -/
inductive FieldsReplaced (w : World) (t : ContentType) (inputs : List FieldInput) : World → Prop
  | mk {fields : List StoredField} {issued : World} :
      (Memory.recordFields t.id (w.fieldsOf t.id) inputs).run w = (.ok fields, issued) →
      FieldsReplaced w t inputs
        ((issued.putFields t.id fields).putType { t with updatedAt := w.origin.now })

/-- What a request to make or to change a type does about the fields of the type, which has been
stored already: a list of fields that is in order replaces them. -/
inductive FieldsTaken (w : World) (t : ContentType) (request : Value) : World → Prop
  | replaced {items : List Value} {inputs : List FieldInput} {w' : World} :
      Obj.get request.members "fields" = .list items →
      FieldInput.listOf (.list items) = .ok inputs →
      w.FieldsReplaced t inputs w' → FieldsTaken w t request w'
  | left : (∀ items inputs, Obj.get request.members "fields" = .list items →
      FieldInput.listOf (.list items) ≠ .ok inputs) → FieldsTaken w t request w

end World

/-- A call to the registry of content types. -/
inductive RegistryCall where
  | create (request : Value)
  | update (name : String) (request : Value)
  | replaceFields (name : String) (fields : Value)
  | delete (name : String)

namespace RegistryCall

/-- Makes a call. What it answers does not matter, only whether it does. -/
def action : RegistryCall → Action World Unit
  | create request => discard (Memory.createType request)
  | update name request => discard (Memory.updateType name request)
  | replaceFields name fields => discard (Memory.replaceFields name fields)
  | delete name => discard (Memory.deleteType name)

/-- The world after a call, whether or not it has failed. -/
def next (c : RegistryCall) (w : World) : World :=
  (c.action.run w).2

/-- What a call writes, with everything that is checked before. -/
inductive Writes (w : World) : RegistryCall → World → Prop
  | create {request : Value} {values : TypeValues} {w' : World} :
      ContentType.prepare request [] = .ok values → w.typeSlugTaken values.slug "" = false →
      (w.issue.addType (w.newType values)).FieldsTaken (w.newType values) request w' →
      Writes w (.create request) w'
  | update {name : String} {request : Value} {t : ContentType} {values : TypeValues} {w' : World} :
      w.findType? name = some t → ContentType.prepare request t.toObj = .ok values →
      (values.slug ≠ t.values.slug →
        w.typeSlugTaken values.slug t.id = false ∧ w.entryCount t.id = 0) →
      (w.putType (w.changedType t values)).FieldsTaken (w.changedType t values) request w' →
      Writes w (.update name request) w'
  | replaceFields {name : String} {raw : Value} {t : ContentType} {inputs : List FieldInput}
      {w' : World} :
      w.findType? name = some t → FieldInput.listOf raw = .ok inputs →
      w.FieldsReplaced t inputs w' → Writes w (.replaceFields name raw) w'
  | delete {name : String} {t : ContentType} : w.findType? name = some t →
      Writes w (.delete name) (w.dropType t.id)

end RegistryCall

open Action (IsReadOnly)

variable {w w' : World}

/-! ### What is written is determined -/

namespace World

theorem exists_fieldsReplaced (w : World) (t : ContentType) (inputs : List FieldInput) :
    ∃ w', w.FieldsReplaced t inputs w' := by
  obtain ⟨fields, issued, hrun, -⟩ := Memory.run_recordFields t.id (w.fieldsOf t.id) inputs w
  exact ⟨_, .mk hrun⟩

theorem FieldsReplaced.unique {t : ContentType} {inputs : List FieldInput} {u : World}
    (h : w.FieldsReplaced t inputs w') (h' : w.FieldsReplaced t inputs u) : w' = u := by
  obtain ⟨hrun⟩ := h
  obtain ⟨hrun'⟩ := h'
  rw [hrun, Prod.mk.injEq, Except.ok.injEq] at hrun'
  obtain ⟨rfl, rfl⟩ := hrun'
  rfl

theorem FieldsTaken.unique {t : ContentType} {request : Value} {u : World}
    (h : w.FieldsTaken t request w') (h' : w.FieldsTaken t request u) : w' = u := by
  cases h with
  | replaced hitems hinputs hfields =>
    cases h' with
    | replaced hitems' hinputs' hfields' =>
      obtain rfl := Value.list.inj (hitems.symm.trans hitems')
      obtain rfl := Except.ok.inj (hinputs.symm.trans hinputs')
      exact hfields.unique hfields'
    | left hnone => exact absurd hinputs (hnone _ _ hitems)
  | left hnone =>
    cases h' with
    | replaced hitems hinputs _ => exact absurd hinputs (hnone _ _ hitems)
    | left _ => rfl

end World

/-- A call writes one thing only. -/
theorem RegistryCall.Writes.unique {c : RegistryCall} {u : World} (h : c.Writes w w')
    (h' : c.Writes w u) : w' = u := by
  cases h with
  | create hvalues _ htaken =>
    obtain ⟨hvalues', -, htaken'⟩ := h'
    obtain rfl := Except.ok.inj (hvalues.symm.trans hvalues')
    exact htaken.unique htaken'
  | update ht hvalues _ htaken =>
    obtain _ | ⟨ht', hvalues', -, htaken'⟩ := h'
    obtain rfl := Option.some.inj (ht.symm.trans ht')
    obtain rfl := Except.ok.inj (hvalues.symm.trans hvalues')
    exact htaken.unique htaken'
  | replaceFields ht hinputs hfields =>
    obtain _ | _ | ⟨ht', hinputs', hfields'⟩ := h'
    obtain rfl := Option.some.inj (ht.symm.trans ht')
    obtain rfl := Except.ok.inj (hinputs.symm.trans hinputs')
    exact hfields.unique hfields'
  | delete ht =>
    obtain _ | _ | _ | ht' := h'
    obtain rfl := Option.some.inj (ht.symm.trans ht')
    rfl

/-! ### What calls keep -/

namespace World

theorem changedType_mem {t : ContentType} (ht : t ∈ w.types) (values : TypeValues) :
    w.changedType t values ∈ (w.putType (w.changedType t values)).types :=
  List.mem_map.mpr ⟨t, ht, if_pos rfl⟩

/-- What is known of the records of the registry. -/
structure RegistrySound (w : World) : Prop where
  types : w.TypesSound
  fields : w.FieldsSound

namespace RegistrySound

/-- What steps of the world keep holds of every world that they lead to. -/
theorem ofReaches (h : w.RegistrySound) (hreaches : w.Reaches w') : w'.RegistrySound where
  types := hreaches.keeps TypesSound.ofStep h.types
  fields := hreaches.keeps FieldsSound.ofStep h.fields

theorem dropType (h : w.RegistrySound) (typeId : String) : (w.dropType typeId).RegistrySound where
  types := h.types.dropType typeId
  fields := by
    intro id fields hget
    rw [World.dropType, Table.get?_erase] at hget
    split at hget
    · contradiction
    · exact h.fields id fields hget

/-- The registry stays sound while the rest of the world changes. -/
theorem ofRest (h : w.RegistrySound) (htypes : w'.types = w.types) (hfields : w'.fields = w.fields)
    (hissued : w.origin.issued ≤ w'.origin.issued) : w'.RegistrySound where
  types := h.types.of_types_eq htypes hissued
  fields id fields hget := h.fields id fields (hfields ▸ hget)

/-- Every call keeps the registry sound, also if it fails on the way. -/
theorem next (h : w.RegistrySound) (c : RegistryCall) : (c.next w).RegistrySound := by
  rw [RegistryCall.next]
  cases c with
  | create request =>
    rw [RegistryCall.action, Action.run_discard]
    exact h.ofReaches (Memory.reaches_createType request w)
  | update name request =>
    rw [RegistryCall.action, Action.run_discard]
    exact h.ofReaches (Memory.reaches_updateType name request w)
  | replaceFields name raw =>
    rw [RegistryCall.action, Action.run_discard]
    exact h.ofReaches (Memory.reaches_replaceFields name raw w)
  | delete name =>
    rw [RegistryCall.action, Action.run_discard, Memory.deleteType, Action.run_bind,
      Memory.run_requireType]
    cases w.findType? name with
    | none => exact h
    | some t => exact h.dropType t.id

end RegistrySound

/-- The worlds that calls to the registry lead to, from one without types. In between the rest of
the world may change: time goes on, identifiers are issued, entries and views come and go. -/
inductive RegistryReached : World → Prop
  | start {w : World} : w.types = [] → w.fields = [] → RegistryReached w
  | call {w : World} (c : RegistryCall) : RegistryReached w → RegistryReached (c.next w)
  | elsewhere {w w' : World} : RegistryReached w → w'.types = w.types → w'.fields = w.fields →
      w.origin.issued ≤ w'.origin.issued → RegistryReached w'

/-- The registry is sound in every world that calls to it lead to. -/
theorem RegistryReached.sound (h : w.RegistryReached) : w.RegistrySound := by
  induction h with
  | start htypes hfields =>
    constructor
    · constructor <;> simp [typeIds, htypes]
    · intro id fields hget
      rw [hfields] at hget
      contradiction
  | call c _ ih => exact ih.next c
  | elsewhere _ htypes hfields hissued ih => exact ih.ofRest htypes hfields hissued

end World

/-! ### What calls come down to -/

namespace Memory

/-- Fields that are not in order are refused before anything is written. -/
theorem run_replaceFields_of_error {name : String} {raw : Value} {t : ContentType} {e : Fault}
    (ht : w.findType? name = some t) (h : FieldInput.listOf raw = .error e) :
    (replaceFields name raw).run w = (.error e, w) := by
  rw [replaceFields, Action.run_bind, run_requireType_of_some ht]
  simp only [Action.run_bind, Action.run_lift, h]

/-- A request with a list of fields that is not in order is refused when the type has been stored. -/
theorem run_replaceRequested_of_error {t : ContentType} {request : Value} {items : List Value}
    {e : Fault} (ht : w.findType? t.id = some t)
    (hitems : Obj.get request.members "fields" = .list items)
    (h : FieldInput.listOf (.list items) = .error e) :
    (replaceRequested t.id request).run w = (.error e, w) := by
  rw [replaceRequested, hitems]
  simp only [Action.run_bind, run_replaceFields_of_error ht h]

/-- A request without a list of fields leaves them as they are. -/
theorem run_replaceRequested_of_none (typeId : String) {request : Value}
    (h : ∀ items, Obj.get request.members "fields" ≠ .list items) :
    (replaceRequested typeId request).run w = (.ok (), w) := by
  rw [replaceRequested]
  split
  · next items hitems => exact absurd hitems (h items)
  · rfl

/-- Fields that are in order are stored, and then read. -/
theorem run_replaceFields {name : String} {raw : Value} {t : ContentType}
    {inputs : List FieldInput} (ht : w.findType? name = some t)
    (h : FieldInput.listOf raw = .ok inputs) (hfields : w.FieldsReplaced t inputs w') :
    (replaceFields name raw).run w = (getFields t.id).run w' := by
  obtain ⟨hrun⟩ := hfields
  rw [replaceFields, Action.run_bind, run_requireType_of_some ht]
  simp only [Action.run_bind, Action.run_lift, h, World.run_now, Action.run_get, hrun,
    Action.run_modify]

/-- A request for fields leaves behind what it writes. -/
theorem fieldsTaken_replaceRequested {t : ContentType} (request : Value)
    (ht : w.findType? t.id = some t) :
    w.FieldsTaken t request ((replaceRequested t.id request).run w).2 := by
  by_cases hgiven : ∃ items, Obj.get request.members "fields" = .list items
  · obtain ⟨items, hitems⟩ := hgiven
    cases h : FieldInput.listOf (.list items) with
    | error e =>
      rw [run_replaceRequested_of_error ht hitems h]
      refine .left fun items' inputs hitems' hok => ?_
      obtain rfl := Value.list.inj (hitems.symm.trans hitems')
      simp [h] at hok
    | ok inputs =>
      obtain ⟨w', hfields⟩ := w.exists_fieldsReplaced t inputs
      rw [replaceRequested, hitems, IsReadOnly.snd_run_bind fun _ => .pure (),
        run_replaceFields ht h hfields, (isReadOnly_getFields t.id).run_eq]
      exact .replaced hitems h hfields
  · rw [not_exists] at hgiven
    rw [run_replaceRequested_of_none t.id hgiven]
    exact .left fun items _ hitems => absurd hitems (hgiven items)

end Memory

namespace RegistryCall

/-- Whether running a call has written what the call writes, or has been refused and has changed
nothing. -/
def Settles {α : Type} (c : RegistryCall) (w : World) (ran : Outcome α × World) : Prop :=
  c.Writes w ran.2 ∨ (∀ u, ¬c.Writes w u) ∧ ∃ e, ran = (.error e, w)

theorem settles_create (h : w.RegistrySound) (request : Value) :
    (create request).Settles w ((Memory.createType request).run w) := by
  cases hvalues : ContentType.prepare request [] with
  | error e =>
    refine .inr ⟨?_, e, by simp [Memory.createType, hvalues]⟩
    rintro u ⟨hok⟩
    simp [hvalues] at hok
  | ok values =>
    cases hfree : w.typeSlugTaken values.slug "" with
    | true =>
      refine .inr ⟨?_, typeSlugConflict (.str values.slug), by
        simp [Memory.createType, hvalues, hfree]⟩
      rintro u ⟨hok, hfree'⟩
      obtain rfl := Except.ok.inj (hvalues.symm.trans hok)
      simp [hfree] at hfree'
    | false =>
      have hsound := h.ofReaches (World.Step.addType hvalues hfree).reaches
      have hmem : w.newType values ∈ (w.issue.addType (w.newType values)).types :=
        List.mem_append_right _ (List.mem_singleton_self _)
      have htaken := Memory.fieldsTaken_replaceRequested request (hsound.types.findType?_id hmem)
      rw [← IsReadOnly.snd_run_bind fun _ => Memory.isReadOnly_getType? _ true,
        ← Memory.run_createType hvalues hfree] at htaken
      exact .inl (.create hvalues hfree htaken)

theorem settles_update (h : w.RegistrySound) (name : String) (request : Value) :
    (update name request).Settles w ((Memory.updateType name request).run w) := by
  cases ht : w.findType? name with
  | none =>
    refine .inr ⟨?_, noSuchType (.str name), by
      simp [Memory.updateType, Memory.run_requireType, ht]⟩
    rintro u (_ | ⟨ht'⟩)
    simp [ht] at ht'
  | some t =>
    cases hvalues : ContentType.prepare request t.toObj with
    | error e =>
      refine .inr ⟨?_, e, by simp [Memory.updateType, Memory.run_requireType, ht, hvalues]⟩
      rintro u (_ | ⟨ht', hok⟩)
      obtain rfl := Option.some.inj (ht.symm.trans ht')
      simp [hvalues] at hok
    | ok values =>
      have hrefused (hclash : values.slug ≠ t.values.slug ∧
          (w.typeSlugTaken values.slug t.id = true ∨ 0 < w.entryCount t.id)) :
          ∀ u, ¬(update name request).Writes w u := by
        rintro u (_ | ⟨ht', hok, hfree⟩)
        obtain rfl := Option.some.inj (ht.symm.trans ht')
        obtain rfl := Except.ok.inj (hvalues.symm.trans hok)
        obtain ⟨hfree, hcount⟩ := hfree hclash.1
        rcases hclash.2 with htaken | hentries
        · simp [hfree] at htaken
        · omega
      rw [Memory.run_updateType ht hvalues]
      split
      · next htaken => exact .inr ⟨hrefused ⟨htaken.1, .inl htaken.2⟩, _, rfl⟩
      · next htaken =>
        split
        · next hcount => exact .inr ⟨hrefused ⟨hcount.1, .inr hcount.2⟩, _, rfl⟩
        · next hcount =>
          have hfree (hslug : values.slug ≠ t.values.slug) :
              w.typeSlugTaken values.slug t.id = false ∧ w.entryCount t.id = 0 :=
            ⟨by simpa [hslug] using htaken, by simpa [hslug] using hcount⟩
          have hmem := World.mem_of_findType? ht
          have hsound := h.ofReaches (World.Step.changeType hmem hvalues hfree).reaches
          have hfound := hsound.types.findType?_id (World.changedType_mem hmem values)
          have htaken := Memory.fieldsTaken_replaceRequested request hfound
          rw [← IsReadOnly.snd_run_bind fun _ => Memory.isReadOnly_getType? _ true] at htaken
          exact .inl (.update ht hvalues hfree htaken)

theorem settles_replaceFields (name : String) (raw : Value) :
    (replaceFields name raw).Settles w ((Memory.replaceFields name raw).run w) := by
  cases ht : w.findType? name with
  | none =>
    refine .inr ⟨?_, noSuchType (.str name), by
      simp [Memory.replaceFields, Memory.run_requireType, ht]⟩
    rintro u (_ | _ | ⟨ht'⟩)
    simp [ht] at ht'
  | some t =>
    cases hinputs : FieldInput.listOf raw with
    | error e =>
      rw [Memory.run_replaceFields_of_error ht hinputs]
      refine .inr ⟨?_, _, rfl⟩
      rintro u (_ | _ | ⟨-, hok⟩)
      simp [hinputs] at hok
    | ok inputs =>
      obtain ⟨w', hfields⟩ := w.exists_fieldsReplaced t inputs
      rw [Memory.run_replaceFields ht hinputs hfields, (Memory.isReadOnly_getFields t.id).run_eq]
      exact .inl (.replaceFields ht hinputs hfields)

theorem settles_delete (name : String) :
    (delete name).Settles w ((Memory.deleteType name).run w) := by
  rw [Memory.deleteType, Action.run_bind, Memory.run_requireType]
  cases ht : w.findType? name with
  | none =>
    refine .inr ⟨?_, _, rfl⟩
    rintro u (_ | _ | _ | ht')
    simp [ht] at ht'
  | some t => exact .inl (.delete ht)

/-- A call writes, or it is refused and changes nothing. -/
theorem settles_action (h : w.RegistrySound) (c : RegistryCall) : c.Settles w (c.action.run w) := by
  have hdiscard {α : Type} {ran : Outcome α × World} (hran : c.Settles w ran) :
      c.Settles w (ran.1.map fun _ => PUnit.unit, ran.2) := by
    rcases hran with hwrites | ⟨hnone, e, rfl⟩
    · exact .inl hwrites
    · exact .inr ⟨hnone, e, rfl⟩
  cases c with
  | create request =>
    rw [action, Action.run_discard]
    exact hdiscard (settles_create h request)
  | update name request =>
    rw [action, Action.run_discard]
    exact hdiscard (settles_update h name request)
  | replaceFields name raw =>
    rw [action, Action.run_discard]
    exact hdiscard (settles_replaceFields name raw)
  | delete name =>
    rw [action, Action.run_discard]
    exact hdiscard (settles_delete name)

/-- What a call leaves behind is what it writes, or what was there if it is refused. -/
theorem next_eq_iff (h : w.RegistrySound) (c : RegistryCall) :
    c.next w = w' ↔ c.Writes w w' ∨ (∀ u, ¬c.Writes w u) ∧ w' = w := by
  rw [next]
  rcases settles_action h c with hwrites | ⟨hnone, e, hrun⟩
  · constructor
    · rintro rfl
      exact .inl hwrites
    · rintro (hwrites' | ⟨hnone, -⟩)
      · exact hwrites.unique hwrites'
      · exact absurd hwrites (hnone _)
  · rw [hrun]
    constructor
    · rintro rfl
      exact .inr ⟨hnone, rfl⟩
    · rintro (hwrites | ⟨-, rfl⟩)
      · exact absurd hwrites (hnone w')
      · rfl

end RegistryCall

end ContentEngine
