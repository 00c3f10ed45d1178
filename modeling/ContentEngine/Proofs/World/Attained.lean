import ContentEngine.Proofs.Registry.Run
import ContentEngine.Proofs.Service.Calls

/-!
# Worlds that operations lead to

An operation is a call to the registry or to the entry service, a user who is stored as a document
describes it, or a step of the world (`World.Operation`). A call to the registry may take a type out
and leave its entries and views behind, so that not everything belongs to something that is there.
What is known of types, fields, entries, views and users all the same is `World.Regular`, and every
operation keeps it (`World.Attained.regular`).
-/

namespace ContentEngine

namespace World

variable {w w' : World}

/-! ### Operations -/

/-- What can be done to the world. -/
inductive Operation (w : World) : World → Prop
  | registry (c : RegistryCall) : Operation w (c.next w)
  | service (mail : Format.MailReader) (c : ServiceCall) : Operation w (c.next mail w)
  | user {text : List Char} {request : Obj} : readJson text = some (.obj request) →
      Operation w ((Memory.putUser request).run w).2
  /-- Time goes on, and all other things happen that leave users alone. -/
  | step {w' : World} : w.Step w' → w'.users = w.users → Operation w w'

/-- Whether a world may come of the empty one by operations. -/
def Attained (w : World) : Prop :=
  Relation.ReflTransGen Operation empty w

theorem Attained.operation (h : w.Attained) (hop : w.Operation w') : w'.Attained :=
  Relation.ReflTransGen.tail h hop

/-! ### What is known of the world -/

/-- What is known of the identifiers of views: each view has been issued one of its own. -/
structure ViewsSound (w : World) : Prop where
  nodup : (w.views.map (·.id)).Nodup
  issued : ∀ v ∈ w.views, ∃ n ≤ w.origin.issued, v.id = Origin.identifier n

/-- What is known of a world, whatever belongs to what. -/
structure Regular (w : World) : Prop where
  types : w.TypesSound
  named : ∀ t ∈ w.types, t.values.slug ≠ ""
  fields : w.FieldsSound
  entries : w.EntriesSound
  ordered : w.entries.Ordered
  views : w.ViewsSound
  labels : ∀ u ∈ w.users, u.name.HasText ∧ u.email.HasText

/-! ### Views -/

namespace ViewsSound

/-- Views may change as long as they keep their identifiers, and some may go. -/
theorem of_sublist (h : w.ViewsSound)
    (hviews : (w'.views.map (·.id)).Sublist (w.views.map (·.id)))
    (hissued : w.origin.issued ≤ w'.origin.issued) : w'.ViewsSound where
  nodup := hviews.nodup h.nodup
  issued v hv := by
    obtain ⟨old, hold, hid⟩ := List.mem_map.mp (hviews.subset (List.mem_map_of_mem hv))
    obtain ⟨n, hle, hn⟩ := h.issued old hold
    exact ⟨n, hle.trans hissued, hid ▸ hn⟩

theorem of_views_eq (h : w.ViewsSound) (hviews : w'.views = w.views)
    (hissued : w.origin.issued ≤ w'.origin.issued) : w'.ViewsSound :=
  h.of_sublist (by rw [hviews]) hissued

theorem settleDefault (h : w.ViewsSound) (v : StoredView) : (w.settleDefault v).ViewsSound := by
  rw [World.settleDefault]
  split
  · refine h.of_sublist ?_ (Nat.le_refl _)
    rw [List.map_map, List.map_congr_left (g := (·.id)) fun u _ => ?_]
    rw [Function.comp_apply]
    split <;> rfl
  · exact h

theorem putView (h : w.ViewsSound) (v : StoredView) : (w.putView v).ViewsSound := by
  refine h.of_sublist ?_ (Nat.le_refl _)
  rw [World.putView, List.map_map, List.map_congr_left (g := (·.id)) fun u _ => ?_]
  rw [Function.comp_apply]
  split
  · next hid => exact hid.symm
  · rfl

/-- The next identifier is that of no view. -/
theorem id_ne_latest (h : w.ViewsSound) {v : StoredView} (hv : v ∈ w.views) :
    v.id ≠ w.origin.issue.latest := by
  intro hid
  obtain ⟨n, hle, hn⟩ := h.issued v hv
  have heq : n = w.origin.issued + 1 := Origin.identifier_injective (hn ▸ hid)
  omega

/-- A new view has an identifier that no view has. -/
theorem addView (h : w.ViewsSound) (typeId : String) (values : Obj) :
    ViewsSound { w.issue with views := w.views ++ [w.newView typeId values] } where
  nodup := by
    rw [List.map_append, List.nodup_append]
    refine ⟨h.nodup, List.nodup_singleton _, fun id hid other hother => ?_⟩
    rw [List.map_singleton, List.mem_singleton] at hother
    obtain ⟨v, hv, rfl⟩ := List.mem_map.mp hid
    exact hother ▸ h.id_ne_latest hv
  issued v hv := by
    rcases List.mem_append.mp hv with hv | hv
    · obtain ⟨n, hle, hn⟩ := h.issued v hv
      exact ⟨n, Nat.le_succ_of_le hle, hn⟩
    · rw [List.mem_singleton.mp hv]
      exact ⟨w.origin.issued + 1, Nat.le_refl _, rfl⟩

/-- Every step keeps what is known of the identifiers of views. -/
theorem ofStep (h : w.ViewsSound) (hstep : w.Step w') : w'.ViewsSound := by
  cases hstep with
  | elsewhere now issued users usersDown => exact h.of_views_eq rfl (Nat.le_add_right _ _)
  | addType _ _ => exact h.of_views_eq rfl (Nat.le_succ _)
  | changeType _ _ _ => exact h.of_views_eq rfl (Nat.le_refl _)
  | replaceFields _ _ hrun =>
    obtain ⟨⟨issued, rfl⟩, -⟩ := Memory.of_run_recordFields hrun
    exact h.of_views_eq rfl (Nat.le_add_right _ _)
  | removeType _ => exact h.of_sublist (List.filter_sublist.map _) (Nat.le_refl _)
  | entry c _ =>
    obtain ⟨issued, entries, hnext⟩ := next_eq c w
    rw [hnext]
    exact h.of_views_eq rfl (Nat.le_add_right _ _)
  | @addView t body view _ _ _ => exact (h.addView t.id view.stored).settleDefault _
  | changeView _ _ _ => exact (h.putView _).settleDefault _
  | dropView _ => exact h.of_sublist (List.filter_sublist.map _) (Nat.le_refl _)

end ViewsSound

/-! ### Steps -/

/-- Every step keeps the entries in the order in which they were made. -/
theorem ordered_ofStep (hw : w.EntriesSound) (h : w.entries.Ordered) (hstep : w.Step w') :
    w'.entries.Ordered := by
  cases hstep with
  | elsewhere _ _ _ _ | addType _ _ | changeType _ _ _ | dropView _ => exact h
  | replaceFields _ _ hrun =>
    obtain ⟨⟨issued, rfl⟩, -⟩ := Memory.of_run_recordFields hrun
    exact h
  | @removeType t _ => exact h.deleteType t.id
  | entry c _ => exact c.ordered_next hw h
  | addView _ _ _ | changeView _ _ _ =>
    obtain ⟨views, hsettle, -⟩ := settleDefault_eq _ _
    rw [hsettle]
    exact h

/-- What every request gives to a type holds of the values of all types, whatever the step. -/
theorem values_ofStep {P : TypeValues → Prop}
    (hprepare : ∀ {request : Value} {base : Obj} {values : TypeValues},
      ContentType.prepare request base = .ok values → P values)
    (h : ∀ t ∈ w.types, P t.values) (hstep : w.Step w') : ∀ t ∈ w'.types, P t.values := by
  have hput {t' : ContentType} (ht' : P t'.values) : ∀ u ∈ (w.putType t').types, P u.values := by
    intro u hu
    obtain ⟨old, hold, rfl⟩ := List.mem_map.mp hu
    split
    · exact ht'
    · exact h old hold
  cases hstep with
  | elsewhere _ _ _ _ | dropView _ => exact h
  | addType hvalues _ =>
    intro u hu
    rcases List.mem_append.mp hu with hu | hu
    · exact h u hu
    · rw [List.mem_singleton.mp hu]
      exact hprepare hvalues
  | changeType ht hvalues _ => exact hput (hprepare hvalues)
  | @replaceFields t _ _ _ _ ht _ hrun =>
    obtain ⟨⟨issued, rfl⟩, -⟩ := Memory.of_run_recordFields hrun
    have hsame : P ({ t with updatedAt := w.origin.now } : ContentType).values := h t ht
    exact hput hsame
  | removeType _ => exact fun u hu => h u (List.mem_of_mem_filter hu)
  | entry c _ =>
    obtain ⟨issued, entries, hnext⟩ := next_eq c w
    rw [hnext]
    exact h
  | addView _ _ _ | changeView _ _ _ =>
    obtain ⟨views, hsettle, -⟩ := settleDefault_eq _ _
    rw [hsettle]
    exact h

/-- Every step gives a slug to each type. -/
theorem named_ofStep (h : ∀ t ∈ w.types, t.values.slug ≠ "") (hstep : w.Step w') :
    ∀ t ∈ w'.types, t.values.slug ≠ "" :=
  values_ofStep (fun hvalues => (ContentType.slug_of_prepare hvalues).1) h hstep

/-! ### What operations come down to -/

/-- An operation is a number of steps, or takes a type out of the registry alone. -/
theorem Operation.reaches_or_dropType (h : w.Operation w') :
    w.Reaches w' ∨ ∃ typeId, w' = w.dropType typeId := by
  cases h with
  | registry c =>
    rw [RegistryCall.next]
    cases c with
    | create request =>
      rw [RegistryCall.action, Action.run_discard]
      exact .inl (Memory.reaches_createType request w)
    | update name request =>
      rw [RegistryCall.action, Action.run_discard]
      exact .inl (Memory.reaches_updateType name request w)
    | replaceFields name raw =>
      rw [RegistryCall.action, Action.run_discard]
      exact .inl (Memory.reaches_replaceFields name raw w)
    | delete name =>
      rw [RegistryCall.action, Action.run_discard, Memory.deleteType, Action.run_bind,
        Memory.run_requireType]
      cases w.findType? name with
      | none => exact .inl (.refl w)
      | some t => exact .inr ⟨t.id, rfl⟩
  | service mail c =>
    rcases c.callsOnce_next mail w with hsame | ⟨t, call, ht, htype, hnext⟩
    · rw [hsame]
      exact .inl (.refl w)
    · rw [hnext]
      refine .inl (World.Step.entry call fun typeId values hcall => ?_).reaches
      subst hcall
      exact ⟨t, mem_of_findType? ht, htype.symm⟩
  | @user _ request _ =>
    obtain ⟨issued, users, hrun, -⟩ := exists_of_putUser request w
    rw [hrun]
    exact .inl (World.Step.elsewhere _ issued users w.usersDown).reaches
  | step hstep _ => exact .inl hstep.reaches

theorem FieldsReplaced.rest_eq {t : ContentType} {inputs : List FieldInput}
    (h : w.FieldsReplaced t inputs w') : w'.users = w.users ∧ w'.views = w.views := by
  obtain ⟨hrun⟩ := h
  obtain ⟨⟨issued, rfl⟩, -⟩ := Memory.of_run_recordFields hrun
  exact ⟨rfl, rfl⟩

/-- Taking up a request for fields leaves users and views alone. -/
theorem FieldsTaken.rest_eq {t : ContentType} {request : Value} (h : w.FieldsTaken t request w') :
    w'.users = w.users ∧ w'.views = w.views := by
  cases h with
  | replaced _ _ hfields => exact hfields.rest_eq
  | left _ => exact ⟨rfl, rfl⟩

/-- A call to the registry leaves users and views alone. -/
theorem RegistrySound.rest_next (h : w.RegistrySound) (c : RegistryCall) :
    (c.next w).users = w.users ∧ (c.next w).views = w.views := by
  rcases (RegistryCall.next_eq_iff h c).mp rfl with hwrites | ⟨-, hsame⟩
  · generalize c.next w = after at hwrites
    cases hwrites with
    | create _ _ htaken => exact htaken.rest_eq
    | update _ _ _ htaken => exact htaken.rest_eq
    | replaceFields _ _ hfields => exact hfields.rest_eq
    | delete _ => exact ⟨rfl, rfl⟩
  · rw [hsame]
    exact ⟨rfl, rfl⟩

namespace Regular

theorem empty : World.empty.Regular where
  types := sound_empty.types
  named := by simp [World.empty]
  fields := fieldsSound_empty
  entries := sound_empty.entries
  ordered := EntryStore.ordered_empty
  views := ⟨List.nodup_nil, by simp [World.empty]⟩
  labels := by simp [World.empty]

/-- After an operation every user still has a label. -/
theorem labels_ofOperation (h : w.Regular) (hop : w.Operation w') :
    ∀ u ∈ w'.users, u.name.HasText ∧ u.email.HasText := by
  cases hop with
  | registry c =>
    rw [(RegistrySound.rest_next ⟨h.types, h.fields⟩ c).1]
    exact h.labels
  | service mail c =>
    rcases c.callsOnce_next mail w with hsame | ⟨t, call, -, -, hnext⟩
    · rw [hsame]
      exact h.labels
    · obtain ⟨issued, entries, hcall⟩ := next_eq call w
      rw [hnext, hcall]
      exact h.labels
  | @user text request hread =>
    obtain ⟨issued, users, hrun, husers⟩ := exists_of_putUser request w
    rw [hrun]
    intro u hu
    rcases husers u hu with hold | ⟨id, hnew⟩
    · exact h.labels u hold
    · exact User.labels_of_ofRequest (Value.hasText_of_readJson hread) hnew
  | step _ husers =>
    rw [husers]
    exact h.labels

/-- Every operation keeps what is known of the world. -/
theorem ofOperation (h : w.Regular) (hop : w.Operation w') : w'.Regular := by
  have hlabels := h.labels_ofOperation hop
  rcases hop.reaches_or_dropType with hreaches | ⟨typeId, rfl⟩
  · have hentries : w'.EntriesSound ∧ w'.entries.Ordered :=
      hreaches.keeps (I := fun w => w.EntriesSound ∧ w.entries.Ordered)
        (fun hw hstep => ⟨hw.1.ofStep hstep, ordered_ofStep hw.1 hw.2 hstep⟩)
        ⟨h.entries, h.ordered⟩
    exact {
      types := hreaches.keeps TypesSound.ofStep h.types
      named := hreaches.keeps (I := fun w => ∀ t ∈ w.types, t.values.slug ≠ "") named_ofStep h.named
      fields := hreaches.keeps FieldsSound.ofStep h.fields
      entries := hentries.1
      ordered := hentries.2
      views := hreaches.keeps ViewsSound.ofStep h.views
      labels := hlabels }
  · exact {
      types := h.types.dropType typeId
      named := fun t ht => h.named t (List.mem_of_mem_filter ht)
      fields := (RegistrySound.dropType ⟨h.types, h.fields⟩ typeId).fields
      entries := h.entries.of_entries_eq rfl (Nat.le_refl _)
      ordered := h.ordered
      views := h.views.of_views_eq rfl (Nat.le_refl _)
      labels := hlabels }

end Regular

/-- Every world that operations lead to is regular. -/
theorem Attained.regular (h : w.Attained) : w.Regular := by
  induction h with
  | refl => exact .empty
  | tail _ hop ih => exact ih.ofOperation hop

end World

end ContentEngine
