import ContentEngine.Proofs.Server.Steps
import ContentEngine.Proofs.World.Views

/-!
# Requests and the views of content types

After any run of the server the stored views are complete, and of the views of one type no two share
a slug, and no two are the default. A request to make or to change a view stores one, and takes the
default from the other views of its type if the one that is stored is the default; or it is refused
and leaves the world as it is. What ends in a fault leaves the views as they are
(`Server.views_eq_of_perform_eq_error`), and so does every request that is answered with a conflict.
-/

namespace ContentEngine

open ContentEngine.Action (IsReadOnly FailsCleanly run_bind_eq_ok_iff run_lift_eq_ok_iff
  run_pure_eq_ok_iff)
open Outcome (HasResult)

variable {w w' : World}

/-! ### Actions that leave the views alone -/

/-- Whether an action leaves the views of a world as they are. -/
def Action.KeepsViews {α : Type} (x : Action World α) (w : World) : Prop :=
  (x.run w).2.views = w.views

namespace Action.KeepsViews

variable {α β : Type} {x : Action World α} {f : α → Action World β}

theorem of_isReadOnly (h : IsReadOnly x) (w : World) : KeepsViews x w := by
  rw [KeepsViews, h w]

/-- Reading first does no harm. -/
theorem bind_of_isReadOnly (hx : IsReadOnly x) (hf : ∀ a, KeepsViews (f a) w) :
    KeepsViews (x >>= f) w := by
  rw [KeepsViews, Action.run_bind, hx.run_eq w]
  cases (x.run w).1 with
  | error e => rfl
  | ok a => exact hf a

/-- Neither does reading afterwards. -/
theorem bind (hx : KeepsViews x w) (hf : ∀ a, IsReadOnly (f a)) : KeepsViews (x >>= f) w :=
  (congrArg World.views (IsReadOnly.snd_run_bind hf w)).trans hx

/-- A call to the store of entries is none to the store of views. -/
theorem of_callsOnce {typeName : String} (h : w.CallsOnce typeName (x.run w).2) :
    KeepsViews x w := by
  rw [KeepsViews]
  rcases h with hsame | ⟨t, call, -, -, hnext⟩
  · rw [hsame]
  · obtain ⟨issued, entries, hcall⟩ := World.next_eq call w
    rw [hnext, hcall]

/-- Neither is a call to the registry. -/
theorem of_registryCall (h : w.RegistrySound) (c : RegistryCall) (hx : c.action = discard x) :
    KeepsViews x w := by
  have hnext : c.next w = (x.run w).2 := by rw [RegistryCall.next, hx, Action.run_discard]
  rw [KeepsViews, ← hnext]
  exact (h.rest_next c).2

end Action.KeepsViews

open ContentEngine.Action (KeepsViews)

/-! ### Requests to store a view -/

namespace Memory

theorem failsCleanly_createView (typeId : String) (values : Obj) (w : World) :
    FailsCleanly (createView typeId values) w := by
  intro e
  rw [run_createView]
  split
  · exact fun _ => rfl
  · simp

theorem failsCleanly_updateView? (typeId id : String) (values : Obj) (w : World) :
    FailsCleanly (updateView? typeId id values) w := by
  intro e
  cases hview : w.viewWithId? typeId id with
  | none => simp [updateView?, hview]
  | some view =>
    rw [run_updateView? values hview]
    split
    · exact fun _ => rfl
    · simp

end Memory

namespace Server

/-- Whether a request asks for a view to be stored: one that is made of the body of the request, or
of the body and the view as it was. -/
inductive Request.AsksForView (r : Request) (w : World) : StoredView → Prop
  | new {name : String} {t : ContentType} {body : Value} {view : EditorView} :
      findRoute r.method r.path = .route (.createView name) → w.findType? name = some t →
      r.json = .ok body → EditorView.prepare body [] = .ok view →
      r.AsksForView w (w.newView t.id view.stored)
  | changed {name viewId : String} {t : ContentType} {old : StoredView} {body : Value}
      {view : EditorView} :
      findRoute r.method r.path = .route (.updateView name viewId) → w.findType? name = some t →
      w.viewWithId? t.id viewId = some old → r.json = .ok body →
      EditorView.prepare body old.toObj = .ok view →
      r.AsksForView w (w.changedView old view.stored)

/-- What has been stored of a view can be shown in a response. -/
theorem hasResult_run_shownView {v : StoredView} {view : EditorView} {body : Value} {base : Obj}
    (hvalues : v.values = view.stored) (hview : EditorView.prepare body base = .ok view)
    (f : Value → Response) (w : World) :
    HasResult ((liftM (shownView v) >>= fun shown => pure (f shown) : Action World Response).run
      w).1 := by
  obtain ⟨record, hrecord⟩ := StoredView.hasResult_ofRecord hvalues (EditorView.of_prepare hview).2
  have hshown : shownView v = .ok (.obj record.toRecord) := by
    rw [shownView, hrecord]
    rfl
  rw [Action.run_bind, Action.run_lift, hshown]
  exact ⟨_, rfl⟩

/-- Making a view fails before it is stored, if at all. -/
theorem failsCleanly_createView (name : String) (r : Request) (w : World) :
    FailsCleanly (createView name r) w := by
  refine .bind_of_isReadOnly (Memory.isReadOnly_requireType name) fun t _ => ?_
  refine .bind_of_isReadOnly (.lift _) fun body _ => ?_
  refine .bind_of_isReadOnly (.lift _) fun view hview => ?_
  rw [Action.run_lift] at hview
  refine (Memory.failsCleanly_createView t.id view.stored w).bind_of_hasResult
    fun stored w' hstored => ?_
  rw [Memory.run_createView] at hstored
  split at hstored
  · cases hstored
  · rw [Prod.mk.injEq, Except.ok.injEq] at hstored
    obtain ⟨rfl, rfl⟩ := hstored
    exact hasResult_run_shownView rfl hview _ _

/-- Making a view stores it. -/
theorem asksForView_of_run_createView {name : String} {r : Request} {response : Response}
    (hw : w.ViewsSound) (hroute : findRoute r.method r.path = .route (.createView name))
    (hrun : (createView name r).run w = (.ok response, w')) :
    ∃ v, r.AsksForView w v ∧ w.IsWithView v w' := by
  rw [createView, run_bind_eq_ok_iff] at hrun
  obtain ⟨t, w₁, ht, hrun⟩ := hrun
  obtain ⟨ht, rfl⟩ := Memory.findType?_of_run_requireType ht
  simp only [run_bind_eq_ok_iff, run_lift_eq_ok_iff, run_pure_eq_ok_iff] at hrun
  obtain ⟨body, _, ⟨hbody, rfl⟩, view, _, ⟨hview, rfl⟩, stored, w₂, hstored, shown, _, ⟨-, rfl⟩,
    -, rfl⟩ := hrun
  rw [Memory.run_createView] at hstored
  split at hstored
  · cases hstored
  · rw [Prod.mk.injEq] at hstored
    rw [← hstored.2]
    exact ⟨_, .new hroute ht hbody hview, World.isWithView_addView hw t.id view.stored⟩

theorem isReadOnly_viewToChange (name viewId : String) : (viewToChange name viewId).IsReadOnly := by
  refine (Memory.isReadOnly_requireType name).bind fun t => ?_
  refine IsReadOnly.bind (fun _ => rfl) fun found => ?_
  cases found with
  | none => exact .throw _
  | some view => exact .pure _

/-- A view that is to be changed is found under the identifiers of its type and its own. -/
theorem of_run_viewToChange {name viewId : String} {current : StoredView}
    (h : (viewToChange name viewId).run w = (.ok current, w')) :
    ∃ t, w.findType? name = some t ∧ w.viewWithId? t.id viewId = some current ∧
      w.viewWithId? current.typeId current.id = some current := by
  rw [viewToChange, run_bind_eq_ok_iff] at h
  obtain ⟨t, w₁, ht, h⟩ := h
  obtain ⟨ht, hsame⟩ := Memory.findType?_of_run_requireType ht
  rw [hsame, Action.run_bind, Memory.run_getView?] at h
  cases hview : w.viewWithId? t.id viewId with
  | none =>
    rw [hview] at h
    cases h
  | some view =>
    rw [hview] at h
    obtain ⟨rfl, -⟩ := run_pure_eq_ok_iff.mp h
    have hfound := List.find?_some hview
    simp only [Bool.and_eq_true, beq_iff_eq] at hfound
    exact ⟨t, ht, hview, by rw [hfound.1, hfound.2, hview]⟩

/-- Changing a view fails before it is stored, if at all. -/
theorem failsCleanly_changeView {current : StoredView} (hw : w.ViewsStrict)
    (hcurrent : w.viewWithId? current.typeId current.id = some current) (r : Request) :
    FailsCleanly (changeView current r) w := by
  refine .bind_of_isReadOnly (.lift _) fun body _ => ?_
  refine .bind_of_isReadOnly (.lift _) fun view hview => ?_
  rw [Action.run_lift] at hview
  refine (Memory.failsCleanly_updateView? _ _ view.stored w).bind_of_hasResult
    fun stored w' hstored => ?_
  rw [Memory.run_updateView? _ hcurrent] at hstored
  split at hstored
  · cases hstored
  · rw [Prod.mk.injEq, Except.ok.injEq] at hstored
    obtain ⟨rfl, rfl⟩ := hstored
    have hvalues := World.values_changedView (w := w)
      (hw.complete current (List.mem_of_find?_eq_some hcurrent)) view
    exact hasResult_run_shownView hvalues hview _ _

theorem failsCleanly_updateView (hw : w.ViewsStrict) (name viewId : String) (r : Request) :
    FailsCleanly (updateView name viewId r) w := by
  refine .bind_of_isReadOnly (isReadOnly_viewToChange name viewId) fun current hcurrent => ?_
  have hrun : (viewToChange name viewId).run w = (.ok current, w) :=
    Prod.ext hcurrent (isReadOnly_viewToChange name viewId w)
  obtain ⟨t, -, -, hfound⟩ := of_run_viewToChange hrun
  exact failsCleanly_changeView hw hfound r

/-- Changing a view stores it. -/
theorem asksForView_of_run_updateView {name viewId : String} {r : Request} {response : Response}
    (hroute : findRoute r.method r.path = .route (.updateView name viewId))
    (hrun : (updateView name viewId r).run w = (.ok response, w')) :
    ∃ v, r.AsksForView w v ∧ w.IsWithView v w' := by
  rw [updateView, run_bind_eq_ok_iff] at hrun
  obtain ⟨current, w₁, hcurrent, hrun⟩ := hrun
  obtain rfl : w = w₁ := by rw [← isReadOnly_viewToChange name viewId w, hcurrent]
  obtain ⟨t, ht, hview, hfound⟩ := of_run_viewToChange hcurrent
  simp only [changeView, run_bind_eq_ok_iff, run_lift_eq_ok_iff] at hrun
  obtain ⟨body, _, ⟨hbody, rfl⟩, view, _, ⟨hprepared, rfl⟩, stored, w₂, hstored, hrun⟩ := hrun
  rw [Memory.run_updateView? _ hfound] at hstored
  split at hstored
  · cases hstored
  · rw [Prod.mk.injEq, Except.ok.injEq] at hstored
    obtain ⟨rfl, rfl⟩ := hstored
    simp only [run_bind_eq_ok_iff, run_lift_eq_ok_iff, run_pure_eq_ok_iff] at hrun
    obtain ⟨shown, _, ⟨-, rfl⟩, -, rfl⟩ := hrun
    exact ⟨_, .changed hroute ht hview hbody hprepared,
      World.isWithView_putView (List.mem_of_find?_eq_some hfound) rfl⟩

/-! ### Faults -/

theorem failsCleanly_deleteView (name viewId : String) (w : World) :
    FailsCleanly (deleteView name viewId) w := by
  refine .bind_of_isReadOnly (Memory.isReadOnly_requireType name) fun t _ => ?_
  intro e
  cases hview : w.viewWithId? t.id viewId with
  | none => simp [Memory.deleteView, hview]
  | some view => simp [Memory.deleteView, hview, Except.map]

theorem failsCleanly_deleteType (name : String) (w : World) : FailsCleanly (deleteType name) w := by
  intro e
  cases ht : w.findType? name with
  | none =>
    rw [deleteType, Action.run_bind, Memory.run_requireType, ht]
    exact fun _ => rfl
  | some t =>
    simp [run_deleteType ht]

/-- A request leaves the views alone, or it leaves no trace of a fault: the second is said of those
requests that may store views or take them out. -/
theorem keepsViews_or_failsCleanly (hregistry : w.RegistrySound) (hviews : w.ViewsStrict)
    (role : String) (r : Request) (route : Route) :
    KeepsViews (perform role r route) w ∨ FailsCleanly (perform role r route) w := by
  cases route with
  | health | listTypes | getType _ | getFields _ | effectiveView _ | listViews _ | listEntries _
  | options _ | getEntry _ _ | listVersions _ _ | evaluateRows =>
    exact .inl (.of_isReadOnly (isReadOnly_perform role r rfl) w)
  | createType =>
    refine .inl (.bind_of_isReadOnly (.lift _) fun request => .bind ?_ fun _ => .pure _)
    exact .of_registryCall hregistry (.create request) rfl
  | updateType name =>
    refine .inl (.bind_of_isReadOnly (.lift _) fun request => .bind ?_ fun _ => .pure _)
    exact .of_registryCall hregistry (.update name request) rfl
  | replaceFields name =>
    refine .inl (.bind_of_isReadOnly (.lift _) fun body => .bind ?_ fun _ => .pure _)
    exact .of_registryCall hregistry (.replaceFields name _) rfl
  | createEntry name =>
    refine .inl (.bind_of_isReadOnly (.lift _) fun body => .bind ?_ fun _ => .pure _)
    exact .of_callsOnce (Service.callsOnce_createEntryWith _ name body _ w)
  | updateEntry name entryName =>
    refine .inl (.bind_of_isReadOnly (.lift _) fun body => .bind ?_ fun _ => .pure _)
    exact .of_callsOnce (Service.callsOnce_updateEntryWith _ name _ body _ w)
  | deleteEntry name entryName =>
    refine .inl (.bind ?_ fun _ => .pure _)
    exact .of_callsOnce (Service.callsOnce_deleteEntry name _ w)
  | deleteType name => exact .inr (failsCleanly_deleteType name w)
  | createView name => exact .inr (failsCleanly_createView name r w)
  | updateView name viewId => exact .inr (failsCleanly_updateView hviews name viewId r)
  | deleteView name viewId => exact .inr (failsCleanly_deleteView name viewId w)

/-- A request that ends in a fault leaves the views as they are. -/
theorem views_eq_of_perform_eq_error (hregistry : w.RegistrySound) (hviews : w.ViewsStrict)
    {role : String} {r : Request} {route : Route} {e : Fault}
    (hrun : (perform role r route).run w = (.error e, w')) : w'.views = w.views := by
  rcases keepsViews_or_failsCleanly hregistry hviews role r route with hkeeps | hclean
  · rwa [KeepsViews, hrun] at hkeeps
  · have hsame := hclean e
    rw [hrun] at hsame
    exact congrArg World.views (hsame rfl)

/-! ### What is answered -/

/-- Whether the response of an action, if it has one, is that of a success. -/
def Succeeds (x : Action World Response) : Prop :=
  ∀ w response, (x.run w).1 = .ok response → response.status < 300

namespace Succeeds

variable {α : Type}

theorem pure {status : Nat} (h : status < 300) (payload : Obj) (warnings : List Value) :
    Succeeds (Pure.pure (.success status payload warnings)) := by
  intro w response hrun
  rw [Action.run_pure, Except.ok.injEq] at hrun
  exact hrun ▸ h

theorem throw (e : Fault) : Succeeds (MonadExcept.throw e) := by
  intro w response hrun
  cases hrun

theorem bind {x : Action World α} {f : α → Action World Response} (hf : ∀ a, Succeeds (f a)) :
    Succeeds (x >>= f) := by
  intro w response hrun
  rw [Action.run_bind] at hrun
  rcases hx : x.run w with ⟨e | a, between⟩
  · rw [hx] at hrun
    cases hrun
  · rw [hx] at hrun
    exact hf a between response hrun

end Succeeds

theorem status_evaluateRows {r : Request} {response : Response}
    (h : evaluateRows r = .ok response) : response.status = 200 := by
  rw [evaluateRows, Outcome.bind_eq_ok_iff] at h
  obtain ⟨body, -, h⟩ := h
  split at h
  · exact absurd h Outcome.throw_ne_ok
  · simp only [Outcome.bind_eq_ok_iff, Outcome.pure_eq_ok_iff] at h
    obtain ⟨_, -, _, -, _, -, _, -, rfl⟩ := h
    rfl

/-- Whatever a route does, the response is that of a success if there is no fault. -/
theorem succeeds_perform (role : String) (r : Request) (route : Route) :
    Succeeds (perform role r route) := by
  cases route with
  | health =>
    intro w response hrun
    rw [perform, Action.run_pure, Except.ok.injEq] at hrun
    exact hrun ▸ by decide
  | getType name =>
    refine .bind fun found => ?_
    cases found with
    | none => exact .throw _
    | some t => exact .pure (by decide) _ _
  | listViews name =>
    exact .bind fun t => .bind fun views => .bind fun shown => .pure (by decide) _ _
  | effectiveView name =>
    exact .bind fun t => .bind fun views => .bind fun picked => .bind fun fields =>
      .bind fun layout => .pure (by decide) _ _
  | createView name =>
    exact .bind fun t => .bind fun body => .bind fun view => .bind fun stored =>
      .bind fun shown => .pure (by decide) _ _
  | updateView name viewId =>
    refine .bind fun current => .bind fun body => .bind fun view => .bind fun changed => ?_
    cases changed with
    | none => exact .throw _
    | some stored => exact .bind fun shown => .pure (by decide) _ _
  | deleteView name viewId =>
    refine .bind fun t => .bind fun found => ?_
    cases found with
    | false => exact .throw _
    | true => exact .pure (by decide) _ _
  | deleteType name =>
    exact .bind fun t => .bind fun _ => .bind fun _ => .bind fun _ => .pure (by decide) _ _
  | evaluateRows =>
    intro w response hrun
    rw [perform, Action.run_lift] at hrun
    exact status_evaluateRows hrun ▸ by decide
  | listTypes | getFields _ | listEntries _ | options _ | getEntry _ _ | listVersions _ _
  | deleteEntry _ _ => exact .bind fun _ => .pure (by decide) _ _
  | createType | updateType _ | replaceFields _ | createEntry _ | updateEntry _ _ =>
    exact .bind fun _ => .bind fun _ => .pure (by decide) _ _

namespace Response

theorem status_sent (r : Response) : r.sent.status = r.status ∨ r.sent.status = 500 := by
  rw [sent]
  split
  · exact .inl rfl
  · exact .inr rfl

/-- The response to a request that ends in a fault is that of a failure. -/
theorem le_status_ofOutcome_error (e : Fault) : 400 ≤ (ofOutcome (.error e)).status := by
  cases e with
  | issue i =>
    have hissue : 400 ≤ i.code.status := by cases i.code <;> decide
    rcases status_sent (ofIssue i) with hstatus | hstatus <;> rw [ofOutcome, hstatus]
    · exact hissue
    · decide
  | _ =>
    have hfault : 400 ≤ serverFault.status := by decide
    exact hfault

end Response

end Server

/-! ### Runs of the server -/

theorem registrySound_runServer (steps : List ServerStep) : (runServer steps).RegistrySound :=
  World.RegistrySound.ofReaches ⟨World.Regular.empty.types, World.Regular.empty.fields⟩
    (reaches_runServer steps)

theorem views_runServer (steps : List ServerStep) :
    (runServer steps).ViewsSound ∧ (runServer steps).ViewsStrict :=
  (reaches_runServer steps).keeps (I := fun w => w.ViewsSound ∧ w.ViewsStrict)
    (fun hw hstep => ⟨hw.1.ofStep hstep, hw.2.ofStep hw.1 hstep⟩)
    ⟨World.Regular.empty.views, .empty⟩

namespace Server

/-- Whether a request is one to make or to change a view. -/
def Request.WritesView (r : Request) : Prop :=
  (∃ name, findRoute r.method r.path = .route (.createView name)) ∨
    ∃ name viewId, findRoute r.method r.path = .route (.updateView name viewId)

/-- A request to make or to change a view stores one, or is refused and changes nothing. -/
theorem stores_or_refused (hsound : w.ViewsSound) (hviews : w.ViewsStrict)
    {secret? : Option (List UInt8)} {r : Request} {role : String} {response : Response}
    (hsender : senderRole secret? (secondsNow w) r = .ok role) (hr : r.WritesView)
    (hrun : (respond secret? r).run w = (response, w')) :
    (∃ v, r.AsksForView w v ∧ w.IsWithView v w') ∨ 400 ≤ response.status ∧ w' = w := by
  obtain ⟨route, hroute, hclean, hstores⟩ : ∃ route, findRoute r.method r.path = .route route ∧
      FailsCleanly (perform role r route) w ∧
      ∀ answer, (perform role r route).run w = (.ok answer, w') →
        ∃ v, r.AsksForView w v ∧ w.IsWithView v w' := by
    rcases hr with ⟨name, hroute⟩ | ⟨name, viewId, hroute⟩
    · exact ⟨_, hroute, failsCleanly_createView name r w, fun _ hperform =>
        asksForView_of_run_createView hsound hroute hperform⟩
    · exact ⟨_, hroute, failsCleanly_updateView hviews name viewId r, fun _ hperform =>
        asksForView_of_run_updateView hroute hperform⟩
  rw [run_respond_of_sender hsender, run_serve_of_route role w hroute, Prod.mk.injEq] at hrun
  obtain ⟨rfl, rfl⟩ := hrun
  rcases hperform : (perform role r route).run w with ⟨e | answer, after⟩
  · have hsame := hclean e
    rw [hperform] at hsame
    exact .inr ⟨Response.le_status_ofOutcome_error e, hsame rfl⟩
  · rw [hperform] at hstores
    exact .inl (hstores answer rfl)

/-- A request that is answered with a conflict leaves the views as they are. -/
theorem views_eq_of_conflict (hregistry : w.RegistrySound) (hviews : w.ViewsStrict)
    {secret? : Option (List UInt8)} {r : Request} {response : Response}
    (hrun : (respond secret? r).run w = (response, w')) (hconflict : response.status = 409) :
    w'.views = w.views := by
  rcases run_respond_cases secret? r w with hsame | ⟨role, route, -, -, hroute⟩
  · rw [hrun] at hsame
    exact congrArg World.views hsame
  · rw [hrun, Prod.mk.injEq] at hroute
    obtain ⟨rfl, rfl⟩ := hroute
    rcases hperform : (perform role r route).run w with ⟨e | answer, after⟩
    · exact views_eq_of_perform_eq_error hregistry hviews hperform
    · -- a success is no conflict, even if it cannot be sent
      have hsuccess := succeeds_perform role r route w answer (by rw [hperform])
      rw [hperform, Response.ofOutcome] at hconflict
      rcases answer.status_sent with hstatus | hstatus <;> omega

end Server

/-- After any run of the server every stored view is complete, and of the views of one content type
no two share a slug, and no two are the default. A request to make or to change a view then stores
one, beside the other views, from which the default of their type is taken exactly if the one that
is stored is that; or it is refused and changes nothing. Whatever is answered with a conflict leaves
the views as they are. -/
theorem runServer_views_strict (steps : List ServerStep) :
    (∀ v ∈ (runServer steps).views,
      ∃ view : EditorView, v.values = view.stored ∧ view.IsComplete) ∧
    (∀ v ∈ (runServer steps).views, ∀ u ∈ (runServer steps).views, v.typeId = u.typeId →
      v.slug = u.slug ∨ v.isDefault = true ∧ u.isDefault = true → v = u) ∧
    ∀ (secret? : Option (List UInt8)) (r : Server.Request) (response : Server.Response)
      (w' : World), (Server.respond secret? r).run (runServer steps) = (response, w') →
      (∀ role, Server.senderRole secret? (Server.secondsNow (runServer steps)) r = .ok role →
        r.WritesView →
        (∃ v, r.AsksForView (runServer steps) v ∧ (runServer steps).IsWithView v w') ∨
          400 ≤ response.status ∧ w' = runServer steps) ∧
      (response.status = 409 → w'.views = (runServer steps).views) := by
  obtain ⟨hsound, hviews⟩ := views_runServer steps
  refine ⟨hviews.complete, fun v hv u hu htype hboth => ?_, fun secret? r response w' hrun => ?_⟩
  · refine List.inj_on_of_nodup_map hsound.nodup hv hu ?_
    rcases hboth with hslug | ⟨hdefault, hdefault'⟩
    · exact hviews.slug_unique v hv u hu htype hslug
    · exact hviews.default_unique v hv u hu htype hdefault hdefault'
  · exact ⟨fun role hsender hr => Server.stores_or_refused hsound hviews hsender hr hrun,
      Server.views_eq_of_conflict (registrySound_runServer steps) hviews hrun⟩

/-! ### Two forms for books -/

namespace Server

/-- A request to make the type of books. -/
def makeBooks : Request :=
  ⟨"POST", "/api/content-types", [], [], "\x7b\"label_singular\":\"Book\"\x7d"⟩

/-- A request to make a short form for books that is the default. -/
def makeShortForm : Request :=
  ⟨"POST", "/api/content-types/books/editor-views", [], [],
    "\x7b\"label\":\"Short\",\"is_default\":true\x7d"⟩

/-- A request to make a long form for books that is the default. -/
def makeLongForm : Request :=
  ⟨"POST", "/api/content-types/books/editor-views", [], [],
    "\x7b\"label\":\"Long\",\"is_default\":true\x7d"⟩

end Server

/-- A run of the server in which the type of books is made, with a short form. -/
def bookSteps : List ServerStep :=
  [.request none Server.makeBooks, .request none Server.makeShortForm]

/-- The answer to the request for the long form. -/
def longAnswer : Server.Response × World :=
  (Server.respond none Server.makeLongForm).run (runServer bookSteps)

/-- The answer to the request for the short form, made once more. -/
def shortAnswer : Server.Response × World :=
  (Server.respond none Server.makeShortForm).run (runServer bookSteps)

/-- The long form for books takes the default from the short one. Making the short one once more is
a conflict. -/
theorem long_form_takes_default :
    (∃ v, Server.makeLongForm.AsksForView (runServer bookSteps) v ∧
      (runServer bookSteps).IsWithView v longAnswer.2) ∧
    longAnswer.2.views.map (·.isDefault) = [false, true] ∧
    shortAnswer.1.status = 409 ∧ shortAnswer.2.views = (runServer bookSteps).views := by
  have hlaw := (runServer_views_strict bookSteps).2.2
  have hstatus : longAnswer.1.status = 201 := by decide +kernel
  have hdefault : longAnswer.2.views.map (·.isDefault) = [false, true] := by decide +kernel
  have hconflict : shortAnswer.1.status = 409 := by decide +kernel
  have hsender : Server.senderRole none (Server.secondsNow (runServer bookSteps))
      Server.makeLongForm = .ok Server.usualRole := rfl
  have hwrites : Server.makeLongForm.WritesView := .inl ⟨"books", by decide⟩
  have hlong : (Server.respond none Server.makeLongForm).run (runServer bookSteps) =
      (longAnswer.1, longAnswer.2) := (Prod.eta longAnswer).symm
  have hshort : (Server.respond none Server.makeShortForm).run (runServer bookSteps) =
      (shortAnswer.1, shortAnswer.2) := (Prod.eta shortAnswer).symm
  refine ⟨?_, hdefault, hconflict, (hlaw _ _ _ _ hshort).2 hconflict⟩
  rcases (hlaw _ _ _ _ hlong).1 _ hsender hwrites with
    hstored | ⟨hrefused, -⟩
  · exact hstored
  · rw [hstatus] at hrefused
    exact absurd hrefused (by decide)

end ContentEngine
