import ContentEngine.Proofs.Registry.Slugs
import ContentEngine.Proofs.Server.Settled

/-!
# Updates that ask for nothing

Whatever is stored is settled, so an update that asks for nothing makes the same of it once more. A
type keeps its values and is shown with its fields (`Memory.run_updateType_nothing`), and a view
keeps everything that is stored of it (`Server.run_updateView_nothing`); no other type or view is
touched. Only the time of the last change is another one (`World.Arises.empty_update`).
-/

namespace ContentEngine

variable {w : World}

/-! ### Types -/

/-- The type with an identifier is found after it has been replaced. -/
theorem World.TypesSound.findType?_putType (hw : w.TypesSound) {t t' : ContentType}
    (ht : t ∈ w.types) (hid : t'.id = t.id) (hslug : t'.values.slug = t.values.slug) :
    (w.putType t').findType? t.id = some t' := by
  have hafter : (w.putType t').TypesSound :=
    hw.putType ht hid (fun u hu heq => hw.slug_unique u hu t ht (heq.trans hslug))
      (hslug ▸ hw.slug_spelled t ht)
  have hmem : t' ∈ (w.putType t').types := List.mem_map.mpr ⟨t, ht, if_pos hid.symm⟩
  rw [← hid]
  exact hafter.findType?_id hmem

/-- A type of which nothing is asked keeps its values, and is shown with its fields. -/
theorem Memory.run_updateType_nothing (hw : w.Settled) {name : String} {t : ContentType}
    {fields : List PresentedField} (ht : w.findType? name = some t)
    (hfields : ((getFields name).run w).1 = .ok fields) :
    (updateType name (.obj [])).run w =
      (.ok (some (ContentType.toObj { t with updatedAt := w.origin.now } ++
          [("fields", .list (fields.map fun f => .obj f.toObj))])),
        w.putType { t with updatedAt := w.origin.now }) := by
  have hmem := World.mem_of_findType? ht
  have hfind : (w.putType { t with updatedAt := w.origin.now }).findType? t.id =
      some { t with updatedAt := w.origin.now } :=
    hw.types.findType?_putType hmem rfl rfl
  -- the fields of the type are read in the world after the change as in the one before it
  have hread : ((getFields t.id).run (w.putType { t with updatedAt := w.origin.now })).1 =
      .ok fields := by
    rw [run_getFields ht] at hfields
    rw [run_getFields hfind]
    exact hfields
  have hshown : ((getType? t.id true).run (w.putType { t with updatedAt := w.origin.now })).1 =
      .ok (some (ContentType.toObj { t with updatedAt := w.origin.now } ++
        [("fields", .list (fields.map fun f => .obj f.toObj))])) := by
    rw [run_getType?_with hfind, hread]
    rfl
  have hchanged : w.changedType t t.values = { t with updatedAt := w.origin.now } := rfl
  have hnone : ∀ items, Obj.get (Value.obj []).members "fields" ≠ .list items := nofun
  rw [run_updateType ht (ContentType.prepare_nothing (hw.values t hmem)),
    if_neg fun hslug => hslug.1 rfl, if_neg fun hslug => hslug.1 rfl, hchanged, Action.run_bind,
    run_replaceRequested_of_none t.id hnone]
  exact Prod.ext hshown (isReadOnly_getType? t.id true _)

/-! ### Views -/

namespace Server

variable {r : Request} {name viewId : String} {v : StoredView}

/-- A view of which nothing is asked is stored and shown as it is. -/
theorem run_updateView_nothing (hw : w.Settled)
    (hread : (viewToChange name viewId).run w = (.ok v, w)) (hbody : r.json = .ok (.obj [])) :
    (updateView name viewId r).run w =
      (.ok (.shown [("view", .obj (v.renewed v.values w.origin.now).toObj)]),
        w.putView (v.renewed v.values w.origin.now)) := by
  obtain ⟨t, -, -, hfound⟩ := of_run_viewToChange hread
  have hmem := List.mem_of_find?_eq_some hfound
  obtain ⟨view, -, hvalues, -, hview⟩ := (hw.stored v hmem).prepare_nothing
  have hfree : w.viewSlugTaken v.typeId view.slug v.id = false := by
    have hslug : view.slug = v.slug := by
      rw [StoredView.slug, ← hvalues]
      rfl
    rw [hslug]
    exact hw.viewSlugTaken_eq_false hmem
  rw [updateView, Action.run_bind, hread]
  dsimp only
  rw [run_changeView hw hbody hview hfound, hfree, if_neg Bool.false_ne_true, hvalues,
    hw.settleDefault_putView hmem]

end Server

/-! ### Everything that arises -/

open Server (findRoute senderRole secondsNow respond viewToChange)

/-- Whatever arises by operations and by requests, an update that asks for nothing changes nothing
but the time of the last change. A type whose fields can be read is shown with them, and everything
but that time stays as it was in the type and in the world. What is made of the record of a view is
what is stored of it, and a request to change the view stores it as it was, and nothing else. -/
theorem World.Arises.empty_update (h : w.Arises) :
    (∀ name t fields, w.findType? name = some t →
      ((Memory.getFields name).run w).1 = .ok fields →
      (Memory.updateType name (.obj [])).run w =
        (.ok (some (ContentType.toObj { t with updatedAt := w.origin.now } ++
            [("fields", .list (fields.map fun f => .obj f.toObj))])),
          w.putType { t with updatedAt := w.origin.now })) ∧
    (∀ v ∈ w.views, ∃ view, EditorView.prepare (.obj []) v.toObj = .ok view ∧
      view.stored = v.values) ∧
    ∀ secret? role r name viewId v, senderRole secret? (secondsNow w) r = .ok role →
      findRoute r.method r.path = .route (.updateView name viewId) → r.json = .ok (.obj []) →
      (viewToChange name viewId).run w = (.ok v, w) →
      (respond secret? r).run w =
        ((Server.Response.shown
            [("view", .obj (v.renewed v.values w.origin.now).toObj)]).sent,
          w.putView (v.renewed v.values w.origin.now)) := by
  have hw := h.settled
  refine ⟨fun name t fields ht hfields => Memory.run_updateType_nothing hw ht hfields,
    fun v hv => ?_, fun secret? role r name viewId v hsender hroute hbody hread => ?_⟩
  · obtain ⟨view, -, hvalues, -, hview⟩ := (hw.stored v hv).prepare_nothing
    exact ⟨view, hview, hvalues⟩
  · rw [Server.run_respond_of_sender hsender, Server.run_serve_of_route role w hroute,
      Server.perform, Server.run_updateView_nothing hw hread hbody]
    rfl

/-! ### The short form for books -/

/-- A request to change the short form for books that asks for nothing. -/
def Server.keepShortForm : Server.Request :=
  ⟨"PUT", "/api/content-types/books/editor-views/00000000-0000-4000-8000-000000000002", [], [],
    "\x7b\x7d"⟩

/-- The type of books and its short form stay as they are. -/
theorem books_stay : (runServer bookSteps).Arises ∧
    (∃ (t : ContentType) (fields : List PresentedField),
      (runServer bookSteps).findType? "books" = some t ∧
      (Memory.updateType "books" (.obj [])).run (runServer bookSteps) =
        (.ok (some (ContentType.toObj { t with updatedAt := Origin.start.now } ++
            [("fields", .list (fields.map fun f => .obj f.toObj))])),
          (runServer bookSteps).putType { t with updatedAt := Origin.start.now })) ∧
    ∃ v ∈ (runServer bookSteps).views, v.slug = "short" ∧
      ((respond none Server.keepShortForm).run (runServer bookSteps)).2 =
        (runServer bookSteps).putView (v.renewed v.values Origin.start.now) := by
  have hw := World.arises_runServer bookSteps
  have hnow : (runServer bookSteps).origin.now = Origin.start.now := by decide +kernel
  have hjson : Server.keepShortForm.json = .ok (.obj []) := by cbv
  have hfoundType : ((runServer bookSteps).findType? "books").isSome := by decide +kernel
  have hfields : ((Memory.getFields "books").run (runServer bookSteps)).1.toOption.isSome := by
    decide +kernel
  have hfoundView : ((viewToChange "books" "00000000-0000-4000-8000-000000000002").run
      (runServer bookSteps)).1.toOption.map StoredView.slug = some "short" := by decide +kernel
  generalize runServer bookSteps = w at *
  obtain ⟨htypes, -, hviews⟩ := hw.empty_update
  obtain ⟨t, ht⟩ := Option.isSome_iff_exists.mp hfoundType
  obtain ⟨fields, hfields⟩ := Option.isSome_iff_exists.mp hfields
  obtain ⟨v, hv, hslug⟩ := Option.map_eq_some_iff.mp hfoundView
  have hread : (viewToChange "books" "00000000-0000-4000-8000-000000000002").run w = (.ok v, w) :=
    Prod.ext (Outcome.eq_ok_of_toOption hv) (Server.isReadOnly_viewToChange _ _ w)
  obtain ⟨-, -, -, hmem⟩ := Server.of_run_viewToChange hread
  rw [hnow] at htypes hviews
  refine ⟨hw, ⟨t, fields, ht, htypes _ t fields ht (Outcome.eq_ok_of_toOption hfields)⟩,
    v, List.mem_of_find?_eq_some hmem, hslug, ?_⟩
  rw [hviews none Server.usualRole Server.keepShortForm _ _ v rfl (by decide) hjson hread]

end ContentEngine
