import ContentEngine.Memory.Views
import ContentEngine.Proofs.EntryStore.Run
import ContentEngine.Proofs.Memory.Reads
import ContentEngine.View.Change
import Mathlib.Logic.Relation

/-!
# Steps of the world

`World.Step` says once what can happen to the world in memory: each constructor is one write of one
store, with everything that has been checked before it. `World.Reaches` is any number of steps.

The calls of the registry and of the store of views are taken to steps here: `run_createView` and
its like say what a call answers and leaves behind, and `reaches_createType` and its like that what
it leaves behind is reached by steps, also if the call fails on the way.
-/

namespace ContentEngine

namespace World

/-! ### Steps -/

/-- The type that is made of some values. -/
def newType (w : World) (values : TypeValues) : ContentType :=
  ⟨w.origin.issue.latest, values, w.origin.now, w.origin.now⟩

/-- A type with other values. -/
def changedType (w : World) (t : ContentType) (values : TypeValues) : ContentType :=
  { t with values := values, updatedAt := w.origin.now }

/-- The view that is made of some values. -/
def newView (w : World) (typeId : String) (values : Obj) : StoredView :=
  ⟨w.origin.issue.latest, typeId, values, w.origin.now, w.origin.now⟩

/-- A view with other values. Those that are not given stay. -/
def changedView (w : World) (v : StoredView) (values : Obj) : StoredView :=
  { v with values := Obj.merge v.values values, updatedAt := w.origin.now }

/-- The world in which one more identifier has been issued. -/
def issue (w : World) : World :=
  { w with origin := w.origin.issue }

/-- The world without a type and everything that belongs to it. -/
def removeType (w : World) (typeId : String) : World :=
  { w.dropType typeId with
    entries := w.entries.deleteType typeId
    views := w.views.filter fun v => v.typeId != typeId }

/-- What can happen to the world. -/
inductive Step (w : World) : World → Prop
  /-- Time goes on, other users are known, and identifiers are issued. -/
  | elsewhere (now : String) (issued : Nat) (users : List User) (usersDown : Bool) :
      Step w { w with
        origin := ⟨now, w.origin.issued + issued⟩
        users := users
        usersDown := usersDown }
  | addType {request : Value} {values : TypeValues} :
      ContentType.prepare request [] = .ok values → w.typeSlugTaken values.slug "" = false →
      Step w (w.issue.addType (w.newType values))
  /-- The slug of a type changes only while the type has no entries. -/
  | changeType {t : ContentType} {request : Value} {values : TypeValues} :
      t ∈ w.types →
      ContentType.prepare request t.toObj = .ok values →
      (values.slug ≠ t.values.slug →
        w.typeSlugTaken values.slug t.id = false ∧ w.entryCount t.id = 0) →
      Step w (w.putType (w.changedType t values))
  | replaceFields {t : ContentType} {raw : Value} {inputs : List FieldInput}
      {fields : List StoredField} {issued : World} :
      t ∈ w.types → FieldInput.listOf raw = .ok inputs →
      (Memory.recordFields t.id (w.fieldsOf t.id) inputs).run w = (.ok fields, issued) →
      Step w ((issued.putFields t.id fields).putType { t with updatedAt := w.origin.now })
  | removeType {t : ContentType} : t ∈ w.types →
      Step w (w.removeType t.id)
  /-- Entries are made only of types that are there. -/
  | entry (c : EntryCall) :
      (∀ typeId values, c = .create typeId values → ∃ t ∈ w.types, t.id = typeId) →
      Step w (c.next w)
  | addView {t : ContentType} {body : Value} {view : EditorView} :
      t ∈ w.types → EditorView.prepare body [] = .ok view →
      w.viewSlugTaken t.id (Memory.slugOfView view.stored) "" = false →
      Step w (settleDefault { w.issue with views := w.views ++ [w.newView t.id view.stored] }
        (w.newView t.id view.stored))
  | changeView {current : StoredView} {body : Value} {view : EditorView} :
      w.viewWithId? current.typeId current.id = some current →
      EditorView.prepare body current.toObj = .ok view →
      w.viewSlugTaken current.typeId (Memory.slugOfView view.stored) current.id = false →
      Step w ((w.putView (w.changedView current view.stored)).settleDefault
        (w.changedView current view.stored))
  | dropView {typeId id : String} {view : StoredView} : w.viewWithId? typeId id = some view →
      Step w { w with views := w.views.filter fun v => v.id != view.id }

/-- Whether a world may come of another one by steps. -/
def Reaches : World → World → Prop :=
  Relation.ReflTransGen Step

variable {w w' : World}

theorem Reaches.refl (w : World) : w.Reaches w :=
  Relation.ReflTransGen.refl

theorem Step.reaches (h : w.Step w') : w.Reaches w' :=
  Relation.ReflTransGen.single h

theorem Reaches.trans {w'' : World} (h : w.Reaches w') (h' : w'.Reaches w'') : w.Reaches w'' :=
  Relation.ReflTransGen.trans h h'

/-- What every step keeps holds of every world that is reached. -/
theorem Reaches.keeps {I : World → Prop} (hstep : ∀ {w w' : World}, I w → w.Step w' → I w')
    (h : w.Reaches w') (hw : I w) : I w' := by
  induction h with
  | refl => exact hw
  | tail _ hlast ih => exact hstep ih hlast

/-! ### Actions that make steps -/

variable {α β : Type} {x : Action World α} {f : α → Action World β}

/-- What only reads reaches the world that it starts from. -/
theorem reaches_of_isReadOnly (h : x.IsReadOnly) (w : World) : w.Reaches (x.run w).2 := by
  rw [h w]
  exact .refl w

/-- What follows an action goes on from the world that the action leaves behind. -/
theorem reaches_bind (hx : w.Reaches (x.run w).2)
    (hf : ∀ a w', x.run w = (.ok a, w') → w'.Reaches ((f a).run w').2) :
    w.Reaches ((x >>= f).run w).2 := by
  rw [Action.run_bind]
  rcases h : x.run w with ⟨e | a, w'⟩
  · rw [h] at hx
    exact hx
  · rw [h] at hx
    exact hx.trans (hf a w' h)

/-- What follows an action that only reads goes on from the same world. -/
theorem reaches_bind_of_isReadOnly (hx : x.IsReadOnly)
    (hf : ∀ a, x.run w = (.ok a, w) → w.Reaches ((f a).run w).2) :
    w.Reaches ((x >>= f).run w).2 := by
  refine reaches_bind (reaches_of_isReadOnly hx w) fun a w' h => ?_
  have hw : w' = w := by rw [← hx w, h]
  subst hw
  exact hf a h

theorem mem_of_findType? {name : String} {t : ContentType} (h : w.findType? name = some t) :
    t ∈ w.types := by
  rw [findType?, Option.or_eq_some_iff] at h
  rcases h with h | ⟨-, h⟩ <;> exact List.mem_of_find?_eq_some h

end World

open World (reaches_of_isReadOnly reaches_bind reaches_bind_of_isReadOnly)

variable {w : World}

/-- What is done with a type that is named goes on from the type that is found. -/
theorem World.reaches_requireType {α : Type} {name : String} {f : ContentType → Action World α}
    (hf : ∀ t ∈ w.types, w.Reaches ((f t).run w).2) :
    w.Reaches ((Memory.requireType name >>= f).run w).2 := by
  refine reaches_bind_of_isReadOnly (Memory.isReadOnly_requireType name) fun t h => ?_
  exact hf t (World.mem_of_findType? (Memory.findType?_of_run_requireType h).1)

namespace Memory

/-! ### The registry -/

/-- Recording fields issues identifiers and does nothing else to the world. -/
theorem run_recordFields (typeId : String) (before : List StoredField) (inputs : List FieldInput)
    (w : World) : ∃ fields issued,
      (recordFields typeId before inputs).run w =
        (.ok fields, { w with origin := ⟨w.origin.now, w.origin.issued + issued⟩ }) ∧
      fields.map (·.input) = inputs ∧ ∀ f ∈ fields, f.typeId = typeId := by
  induction inputs generalizing w with
  | nil => exact ⟨[], 0, rfl, rfl, by simp⟩
  | cons input rest ih =>
    cases hbefore : before.find? fun f => f.input.key == input.key with
    | some f =>
      obtain ⟨fields, issued, hrun, hinputs, htype⟩ := ih w
      refine ⟨⟨f.id, typeId, input⟩ :: fields, issued, ?_, ?_, ?_⟩
      · simp only [recordFields, hbefore, Action.run_bind, Action.run_pure, hrun]
      · rw [List.map_cons, hinputs]
      · simpa using htype
    | none =>
      obtain ⟨fields, issued, hrun, hinputs, htype⟩ := ih w.issue
      refine ⟨⟨w.origin.issue.latest, typeId, input⟩ :: fields, 1 + issued, ?_, ?_, ?_⟩
      · have hissue : World.issueId.run w = (.ok w.origin.issue.latest, w.issue) := rfl
        simp only [recordFields, hbefore, Action.run_bind, Action.run_pure, hissue, hrun]
        simp only [World.issue, Origin.issue, Nat.add_assoc]
      · rw [List.map_cons, hinputs]
      · simpa using htype

/-- What has been recorded of fields. -/
theorem of_run_recordFields {typeId : String} {before fields : List StoredField}
    {inputs : List FieldInput} {w w' : World}
    (h : (recordFields typeId before inputs).run w = (.ok fields, w')) :
    (∃ issued, w' = { w with origin := ⟨w.origin.now, w.origin.issued + issued⟩ }) ∧
      fields.map (·.input) = inputs ∧ ∀ f ∈ fields, f.typeId = typeId := by
  obtain ⟨recorded, issued, hrun, hrecorded⟩ := run_recordFields typeId before inputs w
  rw [h, Prod.mk.injEq, Except.ok.injEq] at hrun
  obtain ⟨rfl, hw'⟩ := hrun
  exact ⟨⟨issued, hw'⟩, hrecorded⟩

theorem reaches_replaceFields (name : String) (raw : Value) (w : World) :
    w.Reaches ((replaceFields name raw).run w).2 := by
  refine World.reaches_requireType fun t ht => ?_
  refine reaches_bind_of_isReadOnly (.lift _) fun inputs hinputs => ?_
  rw [Action.run_lift, Prod.mk.injEq] at hinputs
  obtain ⟨fields, issued, hrun, -⟩ := run_recordFields t.id (w.fieldsOf t.id) inputs w
  have hstep := World.Step.replaceFields ht hinputs.1 hrun
  simp only [Action.run_bind, World.run_now, Action.run_get, hrun, Action.run_modify]
  exact hstep.reaches.trans (reaches_of_isReadOnly (isReadOnly_getFields t.id) _)

theorem reaches_replaceRequested (typeId : String) (request : Value) (w : World) :
    w.Reaches ((replaceRequested typeId request).run w).2 := by
  rw [replaceRequested]
  split
  · exact reaches_bind (reaches_replaceFields typeId _ w) fun _ w' _ => .refl w'
  · exact .refl w

/-- A new type is stored before its fields are looked at. -/
theorem run_createType {request : Value} {values : TypeValues}
    (hvalues : ContentType.prepare request [] = .ok values)
    (hfree : w.typeSlugTaken values.slug "" = false) :
    (createType request).run w =
      (replaceRequested (w.newType values).id request >>= fun _ =>
        getType? (w.newType values).id true).run (w.issue.addType (w.newType values)) := by
  simp only [createType, Action.run_bind, Action.run_lift, hvalues, Action.run_get, hfree,
    Bool.false_eq_true, if_false, World.run_now, World.run_issueId, Action.run_modify]
  rfl

theorem reaches_createType (request : Value) (w : World) :
    w.Reaches ((createType request).run w).2 := by
  cases hvalues : ContentType.prepare request [] with
  | error e =>
    simp only [createType, Action.run_bind, Action.run_lift, hvalues]
    exact .refl w
  | ok values =>
    cases hfree : w.typeSlugTaken values.slug "" with
    | true =>
      simp only [createType, Action.run_bind, Action.run_lift, hvalues, Action.run_get, hfree,
        if_true, Action.run_throw]
      exact .refl w
    | false =>
      rw [run_createType hvalues hfree]
      refine (World.Step.addType hvalues hfree).reaches.trans ?_
      exact reaches_bind (reaches_replaceRequested _ request _) fun _ w' _ =>
        reaches_of_isReadOnly (isReadOnly_getType? _ true) w'

/-- A type is changed before its fields are looked at, unless it may not have its new slug. -/
theorem run_updateType {name : String} {request : Value} {t : ContentType} {values : TypeValues}
    (ht : w.findType? name = some t) (hvalues : ContentType.prepare request t.toObj = .ok values) :
    (updateType name request).run w =
      if values.slug ≠ t.values.slug ∧ w.typeSlugTaken values.slug t.id = true then
        (.error (typeSlugConflict (.str values.slug)), w)
      else if values.slug ≠ t.values.slug ∧ 0 < w.entryCount t.id then
        (.error (typeSlugFixed (.str t.values.slug)), w)
      else
        (replaceRequested t.id request >>= fun _ => getType? t.id true).run
          (w.putType (w.changedType t values)) := by
  rw [updateType, Action.run_bind, run_requireType_of_some ht]
  dsimp only
  rw [Action.run_bind, Action.run_lift, hvalues]
  by_cases hslug : values.slug = t.values.slug
  · simp [hslug, World.changedType]
  · by_cases htaken : w.typeSlugTaken values.slug t.id = true
    · simp [hslug, htaken]
    · by_cases hcount : 0 < w.entryCount t.id
      · simp [hslug, htaken, hcount]
      · simp [hslug, htaken, hcount, World.changedType]

theorem reaches_updateType (name : String) (request : Value) (w : World) :
    w.Reaches ((updateType name request).run w).2 := by
  cases ht : w.findType? name with
  | none =>
    rw [updateType, Action.run_bind, run_requireType, ht]
    exact .refl w
  | some t =>
    cases hvalues : ContentType.prepare request t.toObj with
    | error e =>
      simp only [updateType, Action.run_bind, run_requireType_of_some ht, Action.run_lift, hvalues]
      exact .refl w
    | ok values =>
      rw [run_updateType ht hvalues]
      split
      · exact .refl w
      · next htaken =>
        split
        · exact .refl w
        · next hcount =>
          have hstep := World.Step.changeType (World.mem_of_findType? ht) hvalues fun hslug =>
            ⟨by simpa [hslug] using htaken, by simpa [hslug] using hcount⟩
          refine hstep.reaches.trans ?_
          exact reaches_bind (reaches_replaceRequested t.id request _) fun _ w' _ =>
            reaches_of_isReadOnly (isReadOnly_getType? t.id true) w'

/-! ### Views -/

theorem run_createView (typeId : String) (values : Obj) (w : World) :
    (createView typeId values).run w =
      if w.viewSlugTaken typeId (slugOfView values) "" then
        (.error (viewSlugConflict (.str (slugOfView values))), w)
      else
        (.ok (w.newView typeId values),
          World.settleDefault { w.issue with views := w.views ++ [w.newView typeId values] }
            (w.newView typeId values)) := by
  cases htaken : w.viewSlugTaken typeId (slugOfView values) "" with
  | true => simp [createView, htaken]
  | false => simp [createView, htaken, World.newView, World.issue, Except.map]

theorem run_updateView? {typeId id : String} {view : StoredView} (values : Obj)
    (h : w.viewWithId? typeId id = some view) :
    (updateView? typeId id values).run w =
      if w.viewSlugTaken typeId (slugOfView values) id then
        (.error (viewSlugConflict (.str (slugOfView values))), w)
      else
        (.ok (some (w.changedView view values)),
          (w.putView (w.changedView view values)).settleDefault (w.changedView view values)) := by
  cases htaken : w.viewSlugTaken typeId (slugOfView values) id with
  | true => simp [updateView?, h, htaken]
  | false => simp [updateView?, h, htaken, World.changedView, Except.map]

theorem reaches_deleteView (typeId id : String) (w : World) :
    w.Reaches ((deleteView typeId id).run w).2 := by
  cases h : w.viewWithId? typeId id with
  | none =>
    simp only [deleteView, Action.run_bind, Action.run_get, h, Action.run_pure]
    exact .refl w
  | some view =>
    simp only [deleteView, Action.run_bind, Action.run_get, h, Action.run_modify, Action.run_pure]
    exact (World.Step.dropView h).reaches

end Memory

end ContentEngine
