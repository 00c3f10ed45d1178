import ContentEngine.Proofs.ContentType.Again
import ContentEngine.Proofs.Server.Views
import ContentEngine.Proofs.View.Again

/-!
# Worlds in which everything is settled

The values of types and the views that requests leave behind are read as themselves, and of the
views of one type no two share a slug, and no two are the default: this is `World.Settled`. Every
step of the world keeps it, so that it holds of whatever arises by operations and by requests to the
server (`World.Arises.settled`). What a request to change a view does in such a world is told by
`Server.run_changeView`.
-/

namespace ContentEngine

/-! ### Views that give up the default -/

namespace StoredView

variable {old v : StoredView}

/-- A view with other values, which has been changed at some time. -/
def renewed (v : StoredView) (values : Obj) (time : String) : StoredView :=
  { v with values, updatedAt := time }

@[simp] theorem id_renewed (v : StoredView) (values : Obj) (time : String) :
    (v.renewed values time).id = v.id := rfl

@[simp] theorem typeId_renewed (v : StoredView) (values : Obj) (time : String) :
    (v.renewed values time).typeId = v.typeId := rfl

theorem IsSettled.withoutDefault (h : v.IsSettled) : (World.withoutDefault v).IsSettled := by
  obtain ⟨view, hvalues, hview⟩ := h
  refine ⟨{ view with isDefault := false }, ?_, { hview with }⟩
  rw [World.withoutDefault, hvalues]
  rfl

theorem IsSettled.yieldTo (h : old.IsSettled) (v : StoredView) : (old.yieldTo v).IsSettled := by
  rw [StoredView.yieldTo]
  split
  · exact h.withoutDefault
  · exact h

/-- A view that is not the default has nothing to give up. -/
theorem IsSettled.withoutDefault_eq_self (h : v.IsSettled) (hdefault : v.isDefault = false) :
    World.withoutDefault v = v := by
  obtain ⟨view, hvalues, -⟩ := h
  have hget : Obj.get? v.values "is_default" = some (.bool view.isDefault) := by
    rw [hvalues]
    rfl
  have hfalse : view.isDefault = false := by
    rw [isDefault, Obj.get, hget] at hdefault
    exact hdefault
  have hsame : Obj.set v.values "is_default" (.bool false) = v.values :=
    Table.set_of_get? (hfalse ▸ hget)
  rw [World.withoutDefault, hsame]

end StoredView

namespace World

variable {w w' : World} {v : StoredView}

/-! ### What is known of the world -/

/-- What is known of the types and the views that requests leave behind. -/
structure Settled (w : World) : Prop where
  types : w.TypesSound
  views : w.ViewsSound
  strict : w.ViewsStrict
  values : ∀ t ∈ w.types, t.values.IsSettled
  stored : ∀ v ∈ w.views, v.IsSettled

/-- A settled view is stored among settled ones. -/
theorem IsWithView.settled (h : w.IsWithView v w') (hv : v.IsSettled)
    (hviews : ∀ u ∈ w.views, u.IsSettled) : ∀ u ∈ w'.views, u.IsSettled := by
  intro u hu
  rcases h.eq_or_exists hu with rfl | ⟨old, hold, -, rfl⟩
  · exact hv
  · exact (hviews old hold).yieldTo v

/-- After every step the views are settled. -/
theorem stored_ofStep (hsound : w.ViewsSound) (hstrict : w.ViewsStrict)
    (h : ∀ v ∈ w.views, v.IsSettled) (hstep : w.Step w') : ∀ v ∈ w'.views, v.IsSettled := by
  cases hstep with
  | elsewhere _ _ _ _ | addType _ _ | changeType _ _ _ => exact h
  | replaceFields _ _ hrun =>
    obtain ⟨⟨issued, rfl⟩, -⟩ := Memory.of_run_recordFields hrun
    exact h
  | removeType _ | dropView _ => exact fun v hv => h v (List.mem_of_mem_filter hv)
  | entry c _ =>
    obtain ⟨issued, entries, hnext⟩ := next_eq c w
    rw [hnext]
    exact h
  | @addView t body view _ hview _ =>
    have hnew : (w.newView t.id view.stored).IsSettled :=
      ⟨view, rfl, EditorView.isSettled_of_prepare hview⟩
    exact (isWithView_addView hsound t.id view.stored).settled hnew h
  | @changeView current body view hcurrent hview _ =>
    have hmem := List.mem_of_find?_eq_some hcurrent
    have hchanged : (w.changedView current view.stored).IsSettled :=
      ⟨view, values_changedView (hstrict.complete current hmem) view,
        EditorView.isSettled_of_prepare hview⟩
    exact (isWithView_putView (v := w.changedView current view.stored) hmem rfl).settled hchanged h

namespace Settled

theorem empty : World.empty.Settled where
  types := sound_empty.types
  views := Regular.empty.views
  strict := .empty
  values := by simp [World.empty]
  stored := by simp [World.empty]

/-- Every step keeps what is known. -/
theorem ofStep (h : w.Settled) (hstep : w.Step w') : w'.Settled where
  types := h.types.ofStep hstep
  views := h.views.ofStep hstep
  strict := h.strict.ofStep h.views hstep
  values := values_ofStep ContentType.isSettled_of_prepare h.values hstep
  stored := stored_ofStep h.views h.strict h.stored hstep

theorem ofReaches (h : w.Settled) (hreaches : w.Reaches w') : w'.Settled :=
  hreaches.keeps ofStep h

/-- Every operation keeps what is known. -/
theorem ofOperation (h : w.Settled) (hop : w.Operation w') : w'.Settled := by
  rcases hop.reaches_or_dropType with hreaches | ⟨typeId, rfl⟩
  · exact h.ofReaches hreaches
  · exact {
      types := h.types.dropType typeId
      views := h.views.of_views_eq rfl (Nat.le_refl _)
      strict := h.strict.of_subset fun _ hv => hv
      values := fun t ht => h.values t (List.mem_of_mem_filter ht)
      stored := h.stored }

end Settled

/-! ### Where everything is settled -/

/-- Whether a world may arise from the empty one, by operations and by what the server does. -/
inductive Arises : World → Prop
  | start : Arises empty
  | operation {w w' : World} : Arises w → w.Operation w' → Arises w'
  | server {w : World} (step : ServerStep) : Arises w → Arises (step.next w)

theorem Arises.settled (h : w.Arises) : w.Settled := by
  induction h with
  | start => exact .empty
  | operation _ hop ih => exact ih.ofOperation hop
  | server step _ ih => exact ih.ofReaches (step.reaches_next _)

theorem Arises.foldl_next (h : w.Arises) (steps : List ServerStep) :
    (steps.foldl ServerStep.next w).Arises := by
  induction steps generalizing w with
  | nil => exact h
  | cons step rest ih => exact ih (.server step h)

/-- A run of the server starts with nothing. -/
theorem arises_runServer (steps : List ServerStep) : (runServer steps).Arises :=
  Arises.start.foldl_next steps

/-! ### Storing a view once more -/

/-- A view takes the default from no other one if it is not the default beside another one. -/
theorem settleDefault_eq_self (h : ∀ u ∈ w.views, u.IsSettled)
    (halone : ∀ u ∈ w.views, u.typeId = v.typeId → u.id ≠ v.id → v.isDefault = true →
      u.isDefault = false) :
    w.settleDefault v = w := by
  have hdefault : (Obj.get v.values "is_default").truthy = v.isDefault := rfl
  rw [settleDefault, hdefault]
  split
  · next hv =>
    have hviews : (w.views.map fun other =>
        if other.typeId = v.typeId ∧ other.id ≠ v.id then withoutDefault other else other) =
        w.views := by
      refine (List.map_congr_left fun u hu => ?_).trans w.views.map_id
      split
      · next hother =>
        exact (h u hu).withoutDefault_eq_self (halone u hu hother.1 hother.2 hv)
      · rfl
    rw [hviews]
  · rfl

/-- A view that is stored once more, at another time, changes no other one. -/
theorem Settled.settleDefault_putView (h : w.Settled) (hv : v ∈ w.views) (time : String) :
    (w.putView (v.renewed v.values time)).settleDefault (v.renewed v.values time) =
      w.putView (v.renewed v.values time) := by
  have hmem : ∀ u ∈ (w.putView (v.renewed v.values time)).views,
      u = v.renewed v.values time ∨ u ∈ w.views := by
    intro u hu
    obtain ⟨old, hold, rfl⟩ := List.mem_map.mp hu
    split
    · exact .inl rfl
    · exact .inr hold
  refine settleDefault_eq_self (fun u hu => ?_) fun u hu htype hid hdefault => ?_
  · rcases hmem u hu with rfl | hold
    · exact h.stored v hv
    · exact h.stored u hold
  · rcases hmem u hu with rfl | hold
    · exact absurd rfl hid
    · exact Bool.eq_false_iff.mpr fun hother =>
        hid (h.strict.default_unique u hold v hv htype hother hdefault)

/-- No other view has the slug of a view that is stored. -/
theorem Settled.viewSlugTaken_eq_false (h : w.Settled) (hv : v ∈ w.views) :
    w.viewSlugTaken v.typeId v.slug v.id = false :=
  viewSlugTaken_eq_false_iff.mpr fun u hu htype hslug => h.strict.slug_unique u hu v hv htype hslug

end World

/-! ### Requests to change a view -/

namespace Server

variable {w : World} {r : Request} {current present : StoredView} {body : Value} {view : EditorView}

/-- A settled view is shown as it is stored. -/
theorem shownView_of_isSettled {v : StoredView} (h : v.IsSettled) :
    shownView v = .ok (.obj v.toObj) := by
  obtain ⟨view, hrecord, -, hview, -⟩ := h.prepare_nothing
  rw [shownView, ← hrecord, EditorView.ofRecord_toRecord hview]
  rfl

/-- What a request makes of the view that it has read takes the place of the view that is there,
unless another view of the type has the slug. -/
theorem run_changeView (hw : w.Settled) (hbody : r.json = .ok body)
    (hview : EditorView.prepare body current.toObj = .ok view)
    (hfound : w.viewWithId? current.typeId current.id = some present) :
    (changeView current r).run w =
      if w.viewSlugTaken current.typeId view.slug current.id then
        (.error (viewSlugConflict (.str view.slug)), w)
      else
        (.ok (.shown [("view", .obj (present.renewed view.stored w.origin.now).toObj)]),
          (w.putView (present.renewed view.stored w.origin.now)).settleDefault
            (present.renewed view.stored w.origin.now)) := by
  have hslug : Memory.slugOfView view.stored = view.slug := rfl
  have hmerged : Obj.merge present.values view.stored = view.stored :=
    World.values_changedView (w := w)
      (hw.strict.complete present (List.mem_of_find?_eq_some hfound)) view
  have hchanged : w.changedView present view.stored =
      present.renewed view.stored w.origin.now := by
    rw [World.changedView, hmerged, StoredView.renewed]
  have hshown := shownView_of_isSettled (v := present.renewed view.stored w.origin.now)
    ⟨view, rfl, EditorView.isSettled_of_prepare hview⟩
  simp only [changeView, Action.run_bind, Action.run_lift, hbody, hview,
    Memory.run_updateView? view.stored hfound, hslug, hchanged]
  cases w.viewSlugTaken current.typeId view.slug current.id with
  | true => rfl
  | false =>
    simp only [Bool.false_eq_true, if_false, Action.run_bind, Action.run_lift, hshown,
      Action.run_pure]

end Server

end ContentEngine
