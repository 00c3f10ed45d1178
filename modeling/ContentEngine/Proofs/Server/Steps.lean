import ContentEngine.Proofs.Service.Reads
import ContentEngine.Proofs.World.Step
import ContentEngine.Server.Respond

/-!
# Requests are steps of the world

Whatever a request asks for and however it ends, the world that it leaves behind is reached by steps
of the world (`reaches_respond`): a request that fails on the way stops after some of them. A run of
the server is a list of requests, with time passing in between; it reaches what it leads to
(`reaches_runServer`).
-/

namespace ContentEngine

open World (reaches_of_isReadOnly reaches_bind reaches_bind_of_isReadOnly)

variable {w : World}

/-! ### The entry service -/

namespace Service

/-- The type that a name finds in memory, or the refusal of a name that finds none. -/
theorem run_contentType (name : String) (w : World) :
    (contentType Memory.stores name).run w =
      ((w.findType? name).elim
        (.error
          (.notFound "Content type not found" (some "type_slug") (.obj [("slug", .str name)])))
        (fun t => .ok t.toObj), w) := by
  have hfind : (Memory.stores.findType name).run w =
      (.ok ((w.findType? name).map ContentType.toObj), w) := Memory.run_getType?_without name w
  rw [contentType, Action.run_bind, hfind]
  dsimp only
  cases w.findType? name <;> rfl

theorem recordId_toObj (t : ContentType) : recordId t.toObj = t.id := rfl

/-- What is done with a content type that is named goes on from the type that is found. -/
theorem reaches_contentType {α : Type} {name : String} {f : Obj → Action World α}
    (hf : ∀ t ∈ w.types, w.Reaches ((f t.toObj).run w).2) :
    w.Reaches ((contentType Memory.stores name >>= f).run w).2 := by
  rw [Action.run_bind, run_contentType]
  cases h : w.findType? name with
  | none => exact .refl w
  | some t => exact hf t (World.mem_of_findType? h)

theorem reaches_createEntry {t : ContentType} (ht : t ∈ w.types) (values : EntryValues) :
    w.Reaches ((Memory.stores.createEntry t.id values).run w).2 := by
  refine reaches_bind ?_ fun e w' _ => .refl w'
  have hnext : (EntryCall.create t.id values).next w =
      ((Memory.createEntry t.id values).run w).2 := by
    rw [EntryCall.next, EntryCall.action, Action.run_map]
  rw [← hnext]
  refine (World.Step.entry _ fun typeId _ heq => ⟨t, ht, ?_⟩).reaches
  cases heq
  rfl

theorem reaches_updateEntry (typeId id : String) (values : EntryValues) (w : World) :
    w.Reaches ((Memory.stores.updateEntry typeId id values).run w).2 := by
  refine reaches_bind ?_ fun e w' _ => .refl w'
  have hnext : (EntryCall.update typeId id values).next w =
      ((Memory.updateEntry? typeId id values).run w).2 := by
    rw [EntryCall.next, EntryCall.action, Action.run_map]
  rw [← hnext]
  exact (World.Step.entry (.update typeId id values) fun _ _ heq =>
    EntryCall.noConfusion heq).reaches

theorem reaches_dropEntry (typeId id : String) (w : World) :
    w.Reaches ((Memory.stores.deleteEntry typeId id).run w).2 := by
  have hnext : (EntryCall.delete typeId id).next w =
      ((Memory.deleteEntry typeId id).run w).2 := by
    rw [EntryCall.next, EntryCall.action, Action.run_map]
  exact hnext ▸ (World.Step.entry (.delete typeId id) fun _ _ heq =>
    EntryCall.noConfusion heq).reaches

theorem reaches_createEntryWith (mail : Format.MailReader) (name : String) (request role : Value)
    (w : World) : w.Reaches ((createEntryWith mail Memory.stores name request role).run w).2 := by
  have hreading := Memory.isReading_stores
  refine reaches_contentType fun t ht => ?_
  refine reaches_bind_of_isReadOnly (isReadOnly_prepareWith hreading mail _ _ _) fun values _ => ?_
  exact reaches_bind (reaches_createEntry ht values) fun entry w' _ =>
    reaches_of_isReadOnly (isReadOnly_resolveOne hreading _ entry) w'

theorem reaches_updateEntryWith (mail : Format.MailReader) (name : String)
    (entryName request role : Value) (w : World) :
    w.Reaches ((updateEntryWith mail Memory.stores name entryName request role).run w).2 := by
  have hreading := Memory.isReading_stores
  refine reaches_contentType fun t ht => ?_
  refine reaches_bind_of_isReadOnly (isReadOnly_requireEntry hreading _ _) fun current _ => ?_
  refine reaches_bind_of_isReadOnly (isReadOnly_prepareWith hreading mail _ _ _) fun values _ => ?_
  refine reaches_bind (reaches_updateEntry _ _ values w) fun changed w' _ => ?_
  cases changed with
  | none => exact .refl w'
  | some entry => exact reaches_of_isReadOnly (isReadOnly_resolveOne hreading _ entry) w'

theorem reaches_deleteEntry (name : String) (entryName : Value) (w : World) :
    w.Reaches ((deleteEntry Memory.stores name entryName).run w).2 := by
  refine reaches_contentType fun t ht => ?_
  refine reaches_bind_of_isReadOnly
    (isReadOnly_requireEntry Memory.isReading_stores _ _) fun current _ => ?_
  refine reaches_bind (reaches_dropEntry _ _ w) fun found w' _ => ?_
  cases found <;> exact .refl w'

end Service

namespace Server

open Service (isReadOnly_listEntries isReadOnly_options isReadOnly_getEntry isReadOnly_listVersions)

/-! ### Requests about content types -/

/-- Taking a type out takes out everything that belongs to it. -/
theorem run_deleteType {name : String} {t : ContentType} (h : w.findType? name = some t) :
    (deleteType name).run w = (.ok (.shown [("id", .str t.id)]), w.removeType t.id) := by
  have ht := World.mem_of_findType? h
  -- the type that is found again under the identifier is taken out under it
  obtain ⟨u, hu, hid⟩ : ∃ u, w.findType? t.id = some u ∧ u.id = t.id := by
    cases hfind : w.types.find? fun u => u.id == t.id with
    | none =>
      have hne := List.find?_eq_none.mp hfind t ht
      simp at hne
    | some u =>
      exact ⟨u, by rw [World.findType?, hfind, Option.some_or],
        by simpa using List.find?_some hfind⟩
  have hagain : World.findType? { w with
      entries := w.entries.deleteType t.id
      views := w.views.filter fun v => v.typeId != t.id } t.id = some u := hu
  simp only [deleteType, Action.run_bind, Memory.run_requireType_of_some h, Memory.deleteEntriesOf,
    Memory.deleteViewsOf, Memory.deleteType, Action.run_get, Action.run_modify, Action.run_pure,
    Memory.run_requireType_of_some hagain, hid]
  rfl

theorem reaches_deleteType (name : String) (w : World) :
    w.Reaches ((deleteType name).run w).2 := by
  cases h : w.findType? name with
  | none =>
    rw [deleteType, Action.run_bind, Memory.run_requireType, h]
    exact .refl w
  | some t =>
    rw [run_deleteType h]
    exact (World.Step.removeType (World.mem_of_findType? h)).reaches

/-! ### Requests about views -/

theorem reaches_createView (name : String) (r : Request) (w : World) :
    w.Reaches ((createView name r).run w).2 := by
  refine World.reaches_requireType fun t ht => ?_
  refine reaches_bind_of_isReadOnly (.lift _) fun body _ => ?_
  refine reaches_bind_of_isReadOnly (.lift _) fun view hview => ?_
  rw [Action.run_lift, Prod.mk.injEq] at hview
  refine reaches_bind ?_ fun stored w' _ =>
    reaches_of_isReadOnly ((Action.IsReadOnly.lift _).bind fun _ => .pure _) w'
  rw [Memory.run_createView]
  split
  · exact .refl w
  · next hfree => exact (World.Step.addView ht hview.1 (by simpa using hfree)).reaches

theorem reaches_changeView {current : StoredView} (r : Request)
    (hcurrent : w.viewWithId? current.typeId current.id = some current) :
    w.Reaches ((changeView current r).run w).2 := by
  refine reaches_bind_of_isReadOnly (.lift _) fun body _ => ?_
  refine reaches_bind_of_isReadOnly (.lift _) fun view hview => ?_
  rw [Action.run_lift, Prod.mk.injEq] at hview
  refine reaches_bind ?_ fun changed w' _ => ?_
  · rw [Memory.run_updateView? _ hcurrent]
    split
    · exact .refl w
    · next hfree => exact (World.Step.changeView hcurrent hview.1 (by simpa using hfree)).reaches
  · cases changed with
    | none => exact .refl w'
    | some stored =>
      exact reaches_of_isReadOnly ((Action.IsReadOnly.lift _).bind fun _ => .pure _) w'

theorem reaches_updateView (name viewId : String) (r : Request) (w : World) :
    w.Reaches ((updateView name viewId r).run w).2 := by
  cases ht : w.findType? name with
  | none =>
    simp only [updateView, viewToChange, Action.run_bind, Memory.run_requireType, ht]
    exact .refl w
  | some t =>
    cases hview : w.viewWithId? t.id viewId with
    | none =>
      simp only [updateView, viewToChange, Action.run_bind, Memory.run_requireType_of_some ht,
        Memory.run_getView?, hview, Action.run_throw]
      exact .refl w
    | some view =>
      simp only [updateView, viewToChange, Action.run_bind, Memory.run_requireType_of_some ht,
        Memory.run_getView?, hview, Action.run_pure]
      -- the view has the identifier and the type under which it has been found
      have hfound := List.find?_some hview
      simp only [Bool.and_eq_true, beq_iff_eq] at hfound
      exact reaches_changeView r (by rw [hfound.1, hfound.2, hview])

theorem reaches_deleteView (name viewId : String) (w : World) :
    w.Reaches ((deleteView name viewId).run w).2 := by
  refine World.reaches_requireType fun t _ => ?_
  refine reaches_bind (Memory.reaches_deleteView t.id viewId w) fun found w' _ => ?_
  cases found <;> exact .refl w'

theorem isReadOnly_effectiveView (name role : String) (r : Request) :
    (effectiveView name role r).IsReadOnly :=
  (Memory.isReadOnly_requireType name).bind fun _ =>
    (Memory.isReadOnly_listViews _).bind fun _ => (Action.IsReadOnly.lift _).bind fun _ =>
    (Memory.isReadOnly_getFields _).bind fun _ => (Action.IsReadOnly.lift _).bind fun _ => .pure _

theorem isReadOnly_listViews (name : String) : (listViews name).IsReadOnly :=
  (Memory.isReadOnly_requireType name).bind fun _ =>
    (Memory.isReadOnly_listViews _).bind fun _ => (Action.IsReadOnly.lift _).bind fun _ => .pure _

/-! ### All requests -/

/-- Whether a route only reads. -/
def Route.isReading : Route → Bool
  | health | listTypes | getType _ | getFields _ | effectiveView _ | listViews _ | listEntries _
  | options _ | getEntry _ _ | listVersions _ _ | evaluateRows => true
  | createType | updateType _ | deleteType _ | replaceFields _ | createView _ | updateView _ _
  | deleteView _ _ | createEntry _ | updateEntry _ _ | deleteEntry _ _ => false

theorem isReadOnly_perform (role : String) (r : Request) {route : Route}
    (h : route.isReading = true) : (perform role r route).IsReadOnly := by
  have hreading := Memory.isReading_stores
  cases route with
  | health => exact .pure _
  | listTypes => exact (Memory.isReadOnly_listTypes _).bind fun _ => .pure _
  | getType name =>
    refine (Memory.isReadOnly_getType? name true).bind fun found => ?_
    cases found with
    | none => exact .throw _
    | some t => exact .pure _
  | getFields name => exact (Memory.isReadOnly_getFields name).bind fun _ => .pure _
  | effectiveView name => exact isReadOnly_effectiveView name role r
  | listViews name => exact isReadOnly_listViews name
  | listEntries name => exact (isReadOnly_listEntries hreading name _).bind fun _ => .pure _
  | options name => exact (isReadOnly_options hreading name _).bind fun _ => .pure _
  | getEntry name entryName => exact (isReadOnly_getEntry hreading name _).bind fun _ => .pure _
  | listVersions name entryName =>
    exact (isReadOnly_listVersions hreading name _).bind fun _ => .pure _
  | evaluateRows => exact .lift _
  | createType | updateType _ | deleteType _ | replaceFields _ | createView _ | updateView _ _
  | deleteView _ _ | createEntry _ | updateEntry _ _ | deleteEntry _ _ => contradiction

/-- Whatever a route does, and however it ends, the world goes on by steps. -/
theorem reaches_perform (role : String) (r : Request) (route : Route) (w : World) :
    w.Reaches ((perform role r route).run w).2 := by
  cases route with
  | health | listTypes | getType _ | getFields _ | effectiveView _ | listViews _ | listEntries _
  | options _ | getEntry _ _ | listVersions _ _ | evaluateRows =>
    exact reaches_of_isReadOnly (isReadOnly_perform role r rfl) w
  | createType =>
    exact reaches_bind_of_isReadOnly (.lift _) fun request _ =>
      reaches_bind (Memory.reaches_createType request w) fun _ w' _ => .refl w'
  | updateType name =>
    exact reaches_bind_of_isReadOnly (.lift _) fun request _ =>
      reaches_bind (Memory.reaches_updateType name request w) fun _ w' _ => .refl w'
  | deleteType name => exact reaches_deleteType name w
  | replaceFields name =>
    exact reaches_bind_of_isReadOnly (.lift _) fun body _ =>
      reaches_bind (Memory.reaches_replaceFields name _ w) fun _ w' _ => .refl w'
  | createView name => exact reaches_createView name r w
  | updateView name viewId => exact reaches_updateView name viewId r w
  | deleteView name viewId => exact reaches_deleteView name viewId w
  | createEntry name =>
    exact reaches_bind_of_isReadOnly (.lift _) fun body _ =>
      reaches_bind (Service.reaches_createEntryWith _ name body _ w) fun _ w' _ => .refl w'
  | updateEntry name entryName =>
    exact reaches_bind_of_isReadOnly (.lift _) fun body _ =>
      reaches_bind (Service.reaches_updateEntryWith _ name _ body _ w) fun _ w' _ => .refl w'
  | deleteEntry name entryName =>
    exact reaches_bind (Service.reaches_deleteEntry name _ w) fun _ w' _ => .refl w'

/-- The answer to a request whose sender is turned away. -/
theorem run_respond_of_denied {secret? : Option (List UInt8)} {r : Request} {response : Response}
    (hsender : senderRole secret? (secondsNow w) r = .error response) :
    (respond secret? r).run w = (response, w) := by
  simp only [respond, StateT.run_bind, StateT.run_get, pure_bind, hsender]
  rfl

/-- The answer to a request whose sender is accepted. -/
theorem run_respond_of_sender {secret? : Option (List UInt8)} {r : Request} {role : String}
    (hsender : senderRole secret? (secondsNow w) r = .ok role) :
    (respond secret? r).run w = (serve role r).run w := by
  simp only [respond, StateT.run_bind, StateT.run_get, pure_bind, hsender]

theorem run_serve_of_route {r : Request} {route : Route} (role : String) (w : World)
    (hroute : findRoute r.method r.path = .route route) :
    (serve role r).run w =
      (.ofOutcome ((perform role r route).run w).1, ((perform role r route).run w).2) := by
  unfold serve
  rw [hroute]
  rfl

theorem run_serve_of_no_route {r : Request} (role : String) (w : World)
    (hroute : ∀ route, findRoute r.method r.path ≠ .route route) :
    ((serve role r).run w).2 = w := by
  unfold serve
  cases hfound : findRoute r.method r.path with
  | route route => exact absurd hfound (hroute route)
  | otherMethod | elsewhere | nothing => rfl

/-- A request is answered by what a route does for its sender, or the world is left as it is. -/
theorem run_respond_cases (secret? : Option (List UInt8)) (r : Request) (w : World) :
    ((respond secret? r).run w).2 = w ∨ ∃ role route,
      senderRole secret? (secondsNow w) r = .ok role ∧ findRoute r.method r.path = .route route ∧
      (respond secret? r).run w =
        (.ofOutcome ((perform role r route).run w).1, ((perform role r route).run w).2) := by
  cases hsender : senderRole secret? (secondsNow w) r with
  | error response => exact .inl (by rw [run_respond_of_denied hsender])
  | ok role =>
    rw [run_respond_of_sender hsender]
    by_cases hroute : ∃ route, findRoute r.method r.path = .route route
    · obtain ⟨route, hroute⟩ := hroute
      exact .inr ⟨role, route, rfl, hroute, run_serve_of_route role w hroute⟩
    · exact .inl (run_serve_of_no_route role w fun route h => hroute ⟨route, h⟩)

/-- A request to make a type without fields, from a sender who is accepted, makes it. -/
theorem snd_run_respond_createType {secret? : Option (List UInt8)} {r : Request} {role : String}
    {request : Value} {values : TypeValues}
    (hsender : senderRole secret? (secondsNow w) r = .ok role)
    (hroute : findRoute r.method r.path = .route .createType)
    (hrequest : typeRequest r = .ok request)
    (hvalues : ContentType.prepare request [] = .ok values)
    (hfree : w.typeSlugTaken values.slug "" = false)
    (hfields : ∀ id, Memory.replaceRequested id request = pure ()) :
    ((respond secret? r).run w).2 = w.issue.addType (w.newType values) := by
  have hcreate : ((Memory.createType request).run w).2 = w.issue.addType (w.newType values) := by
    rw [Memory.run_createType hvalues hfree, hfields]
    exact Memory.isReadOnly_getType? _ true _
  rw [run_respond_of_sender hsender, run_serve_of_route _ _ hroute]
  simp only [perform, createType, Action.run_bind, Action.run_lift, hrequest]
  rcases hrun : (Memory.createType request).run w with ⟨e | made, after⟩ <;>
  · rw [hrun] at hcreate
    exact hcreate

/-- Whatever a request asks for and however it is answered, the world goes on by steps. -/
theorem reaches_respond (secret? : Option (List UInt8)) (r : Request) (w : World) :
    w.Reaches ((respond secret? r).run w).2 := by
  rcases run_respond_cases secret? r w with hsame | ⟨role, route, -, -, hrun⟩
  · rw [hsame]
    exact .refl w
  · rw [hrun]
    exact reaches_perform role r route w

end Server

/-! ### Runs of the server -/

/-- A step of a run of the server: a request, with or without a shared secret, or something that
happens elsewhere. -/
inductive ServerStep where
  | request (secret? : Option (List UInt8)) (r : Server.Request)
  | meanwhile (now : String) (issued : Nat) (users : List User) (usersDown : Bool)

/-- The world after a step. -/
def ServerStep.next (w : World) : ServerStep → World
  | request secret? r => ((Server.respond secret? r).run w).2
  | meanwhile now issued users usersDown =>
    { w with
      origin := ⟨now, w.origin.issued + issued⟩
      users := users
      usersDown := usersDown }

/-- The world after a run of the server that starts with nothing. -/
def runServer (steps : List ServerStep) : World :=
  steps.foldl ServerStep.next .empty

theorem ServerStep.reaches_next (w : World) (step : ServerStep) : w.Reaches (step.next w) := by
  cases step with
  | request secret? r => exact Server.reaches_respond secret? r w
  | meanwhile now issued users usersDown =>
    exact (World.Step.elsewhere now issued users usersDown).reaches

/-- A run of the server goes on by steps of the world. -/
theorem reaches_runServer (steps : List ServerStep) : World.empty.Reaches (runServer steps) := by
  unfold runServer
  generalize World.empty = w
  induction steps generalizing w with
  | nil => exact .refl w
  | cons step rest ih => exact (step.reaches_next w).trans (ih (step.next w))

end ContentEngine
