import ContentEngine.Proofs.View.Stored
import ContentEngine.Proofs.World.Attained

/-!
# The views of content types

A view is stored among the other views, and if it is the default of its type, no other view of that
type stays so: `World.IsWithView` says what becomes of every view. A step of the world that stores a
view leaves such a world behind. So in every world that steps lead to the stored views are complete,
and among the views of one type no two share a slug, and no two are the default
(`World.ViewsStrict.ofStep`).
-/

namespace ContentEngine

/-! ### Stored views -/

namespace StoredView

/-- Whether a view is the default of its type. -/
def isDefault (v : StoredView) : Bool :=
  (Obj.get v.values "is_default").truthy

/-- Whether what is stored is a complete view. -/
def IsComplete (v : StoredView) : Prop :=
  ∃ view : EditorView, v.values = view.stored ∧ view.IsComplete

/-- What becomes of a view when another one is stored: if that one is the default of the type, this
one is not. -/
def yieldTo (old v : StoredView) : StoredView :=
  if v.isDefault = true ∧ old.typeId = v.typeId then World.withoutDefault old else old

variable {old v : StoredView}

theorem isDefault_withoutDefault (v : StoredView) : (World.withoutDefault v).isDefault = false := by
  rw [isDefault, World.withoutDefault, Obj.get_set_self]
  rfl

theorem slug_withoutDefault (v : StoredView) : (World.withoutDefault v).slug = v.slug := by
  simp [slug, World.withoutDefault, Obj.get, Obj.get?_set]

theorem IsComplete.withoutDefault (h : v.IsComplete) : (World.withoutDefault v).IsComplete := by
  obtain ⟨view, hvalues, hview⟩ := h
  refine ⟨{ view with isDefault := false }, ?_, ?_⟩
  · rw [World.withoutDefault, hvalues]
    rfl
  · exact ⟨hview.label, hview.slug, hview.slug_chars, hview.roles, hview.admin⟩

@[simp] theorem id_yieldTo (old v : StoredView) : (old.yieldTo v).id = old.id := by
  rw [yieldTo]
  split <;> rfl

@[simp] theorem typeId_yieldTo (old v : StoredView) : (old.yieldTo v).typeId = old.typeId := by
  rw [yieldTo]
  split <;> rfl

@[simp] theorem slug_yieldTo (old v : StoredView) : (old.yieldTo v).slug = old.slug := by
  rw [yieldTo]
  split
  · exact slug_withoutDefault old
  · rfl

/-- Only what has been the default stays so, and not beside another default of its type. -/
theorem of_isDefault_yieldTo (h : (old.yieldTo v).isDefault = true) :
    old.isDefault = true ∧ (old.typeId = v.typeId → v.isDefault = false) := by
  rw [yieldTo] at h
  split at h
  · rw [isDefault_withoutDefault] at h
    contradiction
  · next hkept =>
    exact ⟨h, fun htype => Bool.eq_false_iff.mpr fun hv => hkept ⟨hv, htype⟩⟩

theorem IsComplete.yieldTo (h : old.IsComplete) (v : StoredView) :
    (old.yieldTo v).IsComplete := by
  rw [StoredView.yieldTo]
  split
  · exact h.withoutDefault
  · exact h

end StoredView

namespace World

variable {w w' : World} {v : StoredView}

/-! ### Storing a view -/

/-- Whether a world is another one in which a view has been stored. -/
structure IsWithView (w : World) (v : StoredView) (w' : World) : Prop where
  mem : v ∈ w'.views
  /-- The view is the only one with its identifier. -/
  only : ∀ u ∈ w'.views, u.id = v.id → u = v
  /-- The other views are those that were there, in their order. -/
  others : w'.views.filter (·.id ≠ v.id) = (w.views.filter (·.id ≠ v.id)).map (·.yieldTo v)
  /-- Apart from views, nothing has changed but the identifiers that have been issued. -/
  rest : w' = { w with origin := w'.origin, views := w'.views }

theorem views_settleDefault (w : World) (v : StoredView) : (w.settleDefault v).views =
    w.views.map fun old => if old.id = v.id then old else old.yieldTo v := by
  have hdefault : (Obj.get v.values "is_default").truthy = v.isDefault := rfl
  rw [settleDefault, hdefault]
  cases hv : v.isDefault with
  | false =>
    have hsame : (fun old : StoredView => if old.id = v.id then old else old.yieldTo v) = id := by
      funext old
      simp [StoredView.yieldTo, hv]
    rw [hsame, List.map_id]
    rfl
  | true =>
    refine List.map_congr_left fun old _ => ?_
    by_cases hid : old.id = v.id <;> simp [StoredView.yieldTo, hv, hid]

/-- The views without an identifier are those that have been without it. -/
theorem filter_others_map {f g : StoredView → StoredView} {id : String}
    (hid : ∀ u, (f u).id = id ↔ u.id = id) (hother : ∀ u, u.id ≠ id → f u = g u)
    (views : List StoredView) :
    (views.map f).filter (·.id ≠ id) = (views.filter (·.id ≠ id)).map g := by
  have hids : (fun u : StoredView => decide (u.id ≠ id)) ∘ f = fun u => decide (u.id ≠ id) := by
    funext u
    simp [hid]
  rw [List.filter_map, hids]
  exact List.map_congr_left fun u hu => hother u (by simpa using (List.mem_filter.mp hu).2)

/-- The default is settled in a world in which the view stands among the others. -/
theorem isWithView_settleDefault {between : World} (hmem : v ∈ between.views)
    (honly : ∀ u ∈ between.views, u.id = v.id → u = v)
    (hothers : between.views.filter (·.id ≠ v.id) = w.views.filter (·.id ≠ v.id))
    (hrest : between = { w with origin := between.origin, views := between.views }) :
    w.IsWithView v (between.settleDefault v) where
  mem := by
    rw [views_settleDefault]
    exact List.mem_map.mpr ⟨v, hmem, if_pos rfl⟩
  only u hu hid := by
    rw [views_settleDefault] at hu
    obtain ⟨old, hold, rfl⟩ := List.mem_map.mp hu
    split at hid
    · next hown => rw [if_pos hown, honly old hold hown]
    · next hother =>
      rw [StoredView.id_yieldTo] at hid
      exact absurd hid hother
  others := by
    rw [← hothers, views_settleDefault]
    refine filter_others_map (fun old => ?_) (fun old hother => if_neg hother) _
    split
    · exact Iff.rfl
    · rw [StoredView.id_yieldTo]
  rest := by
    obtain ⟨views, hsettle, -⟩ := settleDefault_eq between v
    rw [hsettle, hrest]

namespace IsWithView

/-- Each view is the one that has been stored, or has been there and has yielded to it. -/
theorem eq_or_exists (h : w.IsWithView v w') {u : StoredView} (hu : u ∈ w'.views) :
    u = v ∨ ∃ old ∈ w.views, old.id ≠ v.id ∧ u = old.yieldTo v := by
  by_cases hid : u.id = v.id
  · exact .inl (h.only u hu hid)
  · have hother : u ∈ w'.views.filter (·.id ≠ v.id) := by simp [hu, hid]
    rw [h.others] at hother
    obtain ⟨old, hold, rfl⟩ := List.mem_map.mp hother
    rw [List.mem_filter] at hold
    exact .inr ⟨old, hold.1, by simpa using hold.2, rfl⟩

end IsWithView

/-! ### What is known of the views -/

/-- What is known of the views of types: each is complete, and of the views of one type no two share
a slug, and no two are the default. -/
structure ViewsStrict (w : World) : Prop where
  complete : ∀ v ∈ w.views, v.IsComplete
  slug_unique : ∀ v ∈ w.views, ∀ u ∈ w.views, v.typeId = u.typeId → v.slug = u.slug → v.id = u.id
  default_unique : ∀ v ∈ w.views, ∀ u ∈ w.views, v.typeId = u.typeId →
    v.isDefault = true → u.isDefault = true → v.id = u.id

theorem viewSlugTaken_eq_false_iff {typeId slug ownId : String} :
    w.viewSlugTaken typeId slug ownId = false ↔
      ∀ v ∈ w.views, v.typeId = typeId → v.slug = slug → v.id = ownId := by
  simp only [viewSlugTaken, List.any_eq_false, Bool.and_eq_true, beq_iff_eq, bne_iff_ne, ne_eq,
    not_and, not_not, and_imp]

namespace ViewsStrict

theorem of_subset (h : w.ViewsStrict) (hviews : ∀ v ∈ w'.views, v ∈ w.views) : w'.ViewsStrict where
  complete v hv := h.complete v (hviews v hv)
  slug_unique v hv u hu := h.slug_unique v (hviews v hv) u (hviews u hu)
  default_unique v hv u hu := h.default_unique v (hviews v hv) u (hviews u hu)

/-- A complete view may be stored if no other view of its type has its slug. -/
theorem isWithView (h : w.ViewsStrict) (hwith : w.IsWithView v w') (hv : v.IsComplete)
    (hfree : ∀ old ∈ w.views, old.typeId = v.typeId → old.slug = v.slug → old.id = v.id) :
    w'.ViewsStrict where
  complete u hu := by
    rcases hwith.eq_or_exists hu with rfl | ⟨old, hold, -, rfl⟩
    · exact hv
    · exact (h.complete old hold).yieldTo v
  slug_unique u hu u' hu' htype hslug := by
    rcases hwith.eq_or_exists hu with rfl | ⟨old, hold, -, rfl⟩ <;>
      rcases hwith.eq_or_exists hu' with rfl | ⟨old', hold', -, rfl⟩ <;>
      simp only [StoredView.typeId_yieldTo, StoredView.slug_yieldTo, StoredView.id_yieldTo]
        at htype hslug ⊢
    · exact (hfree old' hold' htype.symm hslug.symm).symm
    · exact hfree old hold htype hslug
    · exact h.slug_unique old hold old' hold' htype hslug
  default_unique u hu u' hu' htype hdefault hdefault' := by
    rcases hwith.eq_or_exists hu with rfl | ⟨old, hold, -, rfl⟩ <;>
      rcases hwith.eq_or_exists hu' with rfl | ⟨old', hold', -, rfl⟩ <;>
      simp only [StoredView.typeId_yieldTo, StoredView.id_yieldTo] at htype ⊢
    -- a view that stays the default is not of the type of a default that is stored
    · have hnone := (StoredView.of_isDefault_yieldTo hdefault').2 htype.symm
      rw [hdefault] at hnone
      contradiction
    · have hnone := (StoredView.of_isDefault_yieldTo hdefault).2 htype
      rw [hdefault'] at hnone
      contradiction
    · exact h.default_unique old hold old' hold' htype
        (StoredView.of_isDefault_yieldTo hdefault).1 (StoredView.of_isDefault_yieldTo hdefault').1

end ViewsStrict

/-! ### Calls to the store of views -/

/-- Making a view stores it. -/
theorem isWithView_addView (h : w.ViewsSound) (typeId : String) (values : Obj) :
    w.IsWithView (w.newView typeId values)
      (settleDefault { w.issue with views := w.views ++ [w.newView typeId values] }
        (w.newView typeId values)) := by
  have hnew : ∀ u ∈ w.views, u.id ≠ (w.newView typeId values).id := fun _ hu => h.id_ne_latest hu
  refine isWithView_settleDefault (by simp) ?_ ?_ rfl
  · intro u hu hid
    rcases List.mem_append.mp hu with hu | hu
    · exact absurd hid (hnew u hu)
    · exact List.mem_singleton.mp hu
  · simp [List.filter_append]

/-- Changing a view stores it in the place of the one that it has been. -/
theorem isWithView_putView {old : StoredView} (hold : old ∈ w.views) (hid : old.id = v.id) :
    w.IsWithView v ((w.putView v).settleDefault v) := by
  refine isWithView_settleDefault ?_ ?_ ?_ rfl
  · exact List.mem_map.mpr ⟨old, hold, if_pos hid⟩
  · intro u hu hown
    obtain ⟨before, -, rfl⟩ := List.mem_map.mp hu
    split
    · rfl
    · next hother =>
      rw [if_neg hother] at hown
      exact absurd hown hother
  · refine (filter_others_map (g := id) (fun old => ?_) (fun old hother => if_neg hother) _).trans
      (List.map_id _)
    split
    · next hown => simp [hown]
    · exact Iff.rfl

/-- What is stored of a view that is changed is what the change makes of it. -/
theorem values_changedView {current : StoredView} (h : current.IsComplete) (view : EditorView) :
    (w.changedView current view.stored).values = view.stored := by
  obtain ⟨before, hvalues, -⟩ := h
  rw [changedView, hvalues]
  exact before.merge_stored view

namespace ViewsStrict

theorem empty : World.empty.ViewsStrict :=
  ⟨by simp [World.empty], by simp [World.empty], by simp [World.empty]⟩

/-- Every step keeps what is known of the views. -/
theorem ofStep (hsound : w.ViewsSound) (h : w.ViewsStrict) (hstep : w.Step w') :
    w'.ViewsStrict := by
  cases hstep with
  | elsewhere _ _ _ _ | addType _ _ | changeType _ _ _ => exact h.of_subset fun _ hv => hv
  | replaceFields _ _ hrun =>
    obtain ⟨⟨issued, rfl⟩, -⟩ := Memory.of_run_recordFields hrun
    exact h.of_subset fun _ hv => hv
  | removeType _ | dropView _ => exact h.of_subset fun _ hv => List.mem_of_mem_filter hv
  | entry c _ =>
    obtain ⟨issued, entries, hnext⟩ := next_eq c w
    rw [hnext]
    exact h.of_subset fun _ hv => hv
  | @addView t body view _ hview hfree =>
    have hcomplete : (w.newView t.id view.stored).IsComplete :=
      ⟨view, rfl, (EditorView.of_prepare hview).1⟩
    refine h.isWithView (isWithView_addView hsound t.id view.stored) hcomplete
      fun old hold htype hslug => ?_
    -- no view is without an identifier
    have hid := viewSlugTaken_eq_false_iff.mp hfree old hold htype hslug
    obtain ⟨n, -, hn⟩ := hsound.issued old hold
    have hdash := dash_mem_identifier n
    rw [← hn, hid] at hdash
    contradiction
  | @changeView current body view hcurrent hview hfree =>
    have hmem : current ∈ w.views := List.mem_of_find?_eq_some hcurrent
    have hvalues := values_changedView (w := w) (h.complete current hmem) view
    have hcomplete : (w.changedView current view.stored).IsComplete :=
      ⟨view, hvalues, (EditorView.of_prepare hview).1⟩
    have hname : (w.changedView current view.stored).slug = Memory.slugOfView view.stored := by
      rw [StoredView.slug, hvalues, Memory.slugOfView]
    exact h.isWithView (isWithView_putView hmem rfl) hcomplete fun old hold htype hslug =>
      viewSlugTaken_eq_false_iff.mp hfree old hold htype (hslug.trans hname)

end ViewsStrict

end World

end ContentEngine
