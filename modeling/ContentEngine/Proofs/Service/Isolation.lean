import ContentEngine.Proofs.Registry.Slugs

/-!
# Types are isolated from each other

Two worlds are compared that agree on what belongs to one type (`World.SameOf`), and may differ in
everything else. Where users cannot be looked up, a call of the service about that type ends in both
worlds with the same answer, except that a new entry gets an identifier of its own
(`ServiceCall.agree_action_down`). What is known of users adds to the answers and changes nothing
else in them, so that the answers agree whatever users there are. A call leaves everything that
belongs to another type as it is (`ServiceCall.isolated`).
-/

namespace ContentEngine

open Outcome (Agree)
open ContentEngine.Action (IsReadOnly Unchanged)

/-! ### The order of views -/

namespace StoredView

/-- What decides the place of a view in a list. -/
def rank (v : StoredView) : Lex (String × String) :=
  toLex (v.slug, v.id)

theorem le_iff_rank_le {a b : StoredView} : a.le b = true ↔ a.rank ≤ b.rank := by
  simp only [le, Bool.or_eq_true, Bool.and_eq_true, decide_eq_true_eq, beq_iff_eq, rank,
    Prod.Lex.toLex_le_toLex]

end StoredView

namespace World

variable {w w' : World} {typeId : String}

/-- The views of a type are listed in one order, whatever order they have been made in. -/
theorem viewsOf_congr (hw : w.ViewsSound)
    (h : (w.views.filter fun v => v.typeId == typeId).Perm
      (w'.views.filter fun v => v.typeId == typeId)) :
    Service.viewsOf w typeId = Service.viewsOf w' typeId := by
  have hsorted (views : List StoredView) :
      (views.mergeSort StoredView.le).Pairwise fun a b => a.rank ≤ b.rank := by
    refine (List.pairwise_mergeSort (fun a b c hab hbc => ?_) (fun a b => ?_) views).imp
      StoredView.le_iff_rank_le.mp
    · rw [StoredView.le_iff_rank_le] at hab hbc ⊢
      exact hab.trans hbc
    · rw [Bool.or_eq_true, StoredView.le_iff_rank_le, StoredView.le_iff_rank_le]
      exact le_total a.rank b.rank
  refine congrArg (List.map StoredView.toObj) (List.Perm.eq_of_pairwise
    (fun a b ha hb hab hba => ?_) (hsorted _) (hsorted _)
    ((List.mergeSort_perm _ _).trans (h.trans (List.mergeSort_perm _ _).symm)))
  -- views with one rank have one identifier
  have hrank : (a.slug, a.id) = (b.slug, b.id) := toLex.injective (le_antisymm hab hba)
  have ha := List.mem_of_mem_filter ((List.mergeSort_perm _ _).mem_iff.mp ha)
  have hb := List.mem_of_mem_filter (h.mem_iff.mpr ((List.mergeSort_perm _ _).mem_iff.mp hb))
  exact List.inj_on_of_nodup_map hw.nodup ha hb (Prod.mk.inj hrank).2

/-! ### Worlds that agree on a type -/

/-- Whether two worlds agree on what belongs to a type: its fields, its views, its entries in the
order in which they were made, and their versions. -/
structure SameOf (typeId : String) (w w' : World) : Prop where
  fields : w.fieldsOf typeId = w'.fieldsOf typeId
  views : (w.views.filter fun v => v.typeId == typeId).Perm
    (w'.views.filter fun v => v.typeId == typeId)
  entries : w.entries.ofType typeId = w'.entries.ofType typeId
  versions : ∀ e ∈ w.entries.ofType typeId,
    w.entries.versionsOf e.id = w'.entries.versionsOf e.id

theorem SameOf.refl (typeId : String) (w : World) : w.SameOf typeId w :=
  ⟨rfl, .refl _, rfl, fun _ _ => rfl⟩

/-- Whether two worlds agree on a type at one time, and users can be looked up in neither. -/
structure Twins (t : ContentType) (w w' : World) : Prop where
  regular : w.Regular
  regular' : w'.Regular
  mem : t ∈ w.types
  mem' : t ∈ w'.types
  same : w.SameOf t.id w'
  now : w.origin.now = w'.origin.now
  down : w.usersDown = true
  down' : w'.usersDown = true

/-- Whether the entries of a type are shown alike in two worlds, in which no user can be looked
up. -/
structure ShowAlike (t : ContentType) (w w' : World) : Prop where
  found : w.findType? t.id = some t
  found' : w'.findType? t.id = some t
  fields : w.fieldsOf t.id = w'.fieldsOf t.id
  down : w.usersDown = true
  down' : w'.usersDown = true

/-- Nothing but users depends on whether they can be looked up. -/
theorem Regular.withoutUsers (h : w.Regular) : Regular { w with usersDown := true } where
  types := h.types.of_types_eq rfl (Nat.le_refl _)
  named := h.named
  fields := h.fields
  entries := h.entries.of_entries_eq rfl (Nat.le_refl _)
  ordered := h.ordered
  views := h.views.of_views_eq rfl (Nat.le_refl _)
  labels := h.labels

theorem Twins.showAlike {t : ContentType} (h : Twins t w w') : ShowAlike t w w' :=
  ⟨h.regular.types.findType?_id h.mem, h.regular'.types.findType?_id h.mem', h.same.fields, h.down,
    h.down'⟩

theorem ShowAlike.of_unchanged (h : ShowAlike t w w') {s s' : World}
    (hs : Action.Unchanged w w' s s') : ShowAlike t s s' := by
  obtain ⟨rfl, rfl⟩ := hs
  exact h

end World

variable {w w' : World} {t : ContentType}

/-- Objects that differ in the value of their first member. -/
theorem Obj.AgreesBut.cons {excepted : String → Prop} {key : String} (hkey : excepted key)
    (o : Obj) {v v' : Value} : Obj.AgreesBut excepted ((key, v) :: o) ((key, v') :: o) := by
  refine ⟨rfl, fun k hk => ?_⟩
  have hne : k ≠ key := fun heq => hk (heq ▸ hkey)
  rw [Obj.get?_cons, Obj.get?_cons, if_neg hne, if_neg hne]

/-- Lists of objects that agree with one list agree with each other. -/
theorem Obj.AgreesBut.forall₂_of_common {excepted : String → Prop} {objs objs' middle : List Obj}
    (h : List.Forall₂ (Obj.AgreesBut excepted) objs middle)
    (h' : List.Forall₂ (Obj.AgreesBut excepted) objs' middle) :
    List.Forall₂ (Obj.AgreesBut excepted) objs objs' := by
  induction h generalizing objs' with
  | nil =>
    rw [List.forall₂_nil_right_iff.mp h']
    exact .nil
  | cons hhead _ ih =>
    obtain ⟨o', rest, hhead', hrest, rfl⟩ := List.forall₂_cons_right_iff.mp h'
    exact .cons (hhead.trans hhead'.symm) (ih hrest)

namespace Service

/-- Two objects that show one entry differ in what is shown of users. -/
theorem SameButUsers.agreesBut {shown hidden : Obj} (h : SameButUsers shown hidden) :
    shown.AgreesBut (· = "_resolved") hidden := by
  obtain ⟨entry, settings, users, rfl, rfl⟩ := h
  exact (Obj.AgreesBut.refl entry).set (.inl rfl)

theorem SameButUsersAndTexts.agreesBut {isUserKey : String → Prop} {shown hidden : Obj}
    (h : SameButUsersAndTexts isUserKey shown hidden) :
    shown.AgreesBut (fun key => key = "_resolved" ∨ key = "_display") hidden := by
  obtain ⟨resolved, resolved', texts, texts', hresolved, rfl, rfl, -⟩ := h
  exact (hresolved.agreesBut.mono fun _ => .inl).set (.inl (.inr rfl))

end Service

/-- What only reads, and reads the same in both worlds. -/
theorem agree_of_reads {α : Type} {x : Action World α} (hx : IsReadOnly x)
    (h : (x.run w).1 = (x.run w').1) : Action.Agree (Unchanged w w') Eq x x w w' :=
  ⟨.of_eq h fun _ => rfl, (hx w).symm, (hx w').symm⟩

/-! ### Showing entries -/

namespace Service

theorem run_lookUpUsers_of_down (h : w.usersDown = true) (ids : List String) :
    (lookUpUsers Memory.stores ids).run w = (.ok [], w) := by
  rw [lookUpUsers]
  split
  · rfl
  · have hdown : (Memory.stores.getUsers ids).run w = (.error (userLookupFailed .null), w) := by
      simp [Memory.stores, Memory.getUsers, h]
    rw [Action.run_tryCatch, Action.run_bind, hdown]
    rfl

theorem agree_fieldsOf_down (h : w.ShowAlike t w') :
    Action.Agree (Unchanged w w') Eq (Memory.stores.fieldsOf t.id) (Memory.stores.fieldsOf t.id) w
      w' := by
  have hrun (w : World) (hid : w.findType? t.id = some t) :=
    congrArg Prod.fst (Memory.run_getFields hid)
  refine agree_of_reads (Memory.isReading_stores.fieldsOf _) ?_
  exact (hrun w h.found).trans (h.fields ▸ (hrun w' h.found').symm)

/-- Where users cannot be looked up, it does not matter which ones entries refer to. -/
theorem agree_userContext_down (h : w.ShowAlike t w') (entries entries' : List Obj) :
    Action.Agree (Unchanged w w') Eq (userContext Memory.stores t.id entries)
      (userContext Memory.stores t.id entries') w w' := by
  rw [userContext, userContext]
  split
  · exact .pure rfl ⟨rfl, rfl⟩
  · refine (agree_fieldsOf_down h).bind_of_unchanged ⟨rfl, rfl⟩ fun fields _ heq => ?_
    subst heq
    refine Action.Agree.bind_lift _ ⟨rfl, rfl⟩ fun settings => ?_
    rw [Action.Agree, Action.run_bind, Action.run_bind, run_lookUpUsers_of_down h.down,
      run_lookUpUsers_of_down h.down']
    exact ⟨.result rfl, rfl, rfl⟩

/-- Entries that are shown differ as they do. -/
theorem agree_resolveOne_down (h : w.ShowAlike t w') {excepted : String → Prop} {entry entry' : Obj}
    (hentry : entry.AgreesBut excepted entry') :
    Action.Agree (Unchanged w w') (Obj.AgreesBut excepted)
      (resolveOne Memory.stores t.id entry) (resolveOne Memory.stores t.id entry') w w' :=
  (agree_userContext_down h [entry] [entry']).bind fun _ _ _ _ heq hs =>
    .pure (heq ▸ hentry.set (.inr rfl)) hs

/-! ### Reading -/

section Twins

variable (h : w.Twins t w')
include h

theorem agree_requireEntry_down (name : Value) :
    Action.Agree (Unchanged w w') (fun o o' => o = o' ∧ ∃ e, o = e.toObj ∧
        w.entries.find? t.id e.id = some e ∧ w'.entries.find? t.id e.id = some e)
      (requireEntry Memory.stores t.id name) (requireEntry Memory.stores t.id name) w w' := by
  have hnamed : Memory.entryNamed? w t.id name = Memory.entryNamed? w' t.id name := by
    rw [Memory.entryNamed?, Memory.entryNamed?, h.same.entries]
  rw [Action.Agree, run_requireEntry, run_requireEntry, ← hnamed]
  cases he : Memory.entryNamed? w t.id name with
  | none => exact ⟨.fault _, rfl, rfl⟩
  | some e =>
    exact ⟨.result ⟨rfl, e, rfl, find?_of_entryNamed? h.regular.entries he,
      find?_of_entryNamed? h.regular'.entries (hnamed ▸ he)⟩, rfl, rfl⟩

/-- The values of an entry are prepared from the fields and the views of its type. -/
theorem agree_prepareWith_down (mail : Format.MailReader) (request role : Value) :
    Action.Agree (Unchanged w w') Eq (prepareWith mail Memory.stores t.id request role)
      (prepareWith mail Memory.stores t.id request role) w w' := by
  have hviews : Action.Agree (Unchanged w w') Eq (Memory.stores.listViews t.id)
      (Memory.stores.listViews t.id) w w' :=
    agree_of_reads (fun _ => rfl) (congrArg Except.ok
      (World.viewsOf_congr h.regular.views h.same.views))
  have hsame : Unchanged w w' w w' := ⟨rfl, rfl⟩
  rw [prepareWith]
  split
  · exact .throw _ hsame
  · refine Action.Agree.bind_lift _ hsame fun given => ?_
    refine Action.Agree.bind_lift _ hsame fun status => ?_
    refine (agree_fieldsOf_down h.showAlike).bind_of_unchanged hsame fun fields _ heq => ?_
    subst heq
    refine Action.Agree.bind_lift _ hsame fun data => ?_
    refine hviews.bind_of_unchanged hsame fun views _ heq => ?_
    subst heq
    refine Action.Agree.bind_lift _ hsame fun core => ?_
    refine Action.Agree.bind_lift _ hsame fun named => ?_
    exact .pure rfl hsame

/-! ### Writing -/

/-- A new entry gets an identifier of its own, and is the same in all other respects. -/
theorem agree_storeNew_down (values : EntryValues) :
    Action.Agree (World.ShowAlike t) (Obj.AgreesBut (· = "id"))
      (Memory.stores.createEntry t.id values) (Memory.stores.createEntry t.id values) w w' := by
  have hrun (w : World) : (Memory.stores.createEntry t.id values).run w =
      if w.entries.slugTaken t.id values.slug none then (.error (slugRefusal values), w)
      else (.ok (w.newEntry t.id values).toObj, w.withNew t.id values) := by
    cases htaken : w.entries.slugTaken t.id values.slug none with
    | true => simp [Memory.stores, Memory.createEntry, htaken, slugRefusal]
    | false =>
      simp [Memory.stores, Memory.createEntry, htaken, World.newEntry, World.withNew, Except.map]
  have htaken : w.entries.slugTaken t.id values.slug none =
      w'.entries.slugTaken t.id values.slug none := by
    rw [EntryStore.slugTaken_eq_any, EntryStore.slugTaken_eq_any, h.same.entries]
  have halike := h.showAlike
  rw [Action.Agree, hrun, hrun, ← htaken]
  split
  · exact ⟨.fault _, halike⟩
  · have hnew (w : World) : (w.newEntry t.id values).toObj =
        ("id", .str w.origin.issue.latest) :: (w.newEntry t.id values).toObj.tail := rfl
    have hrest : (w.newEntry t.id values).toObj.tail = (w'.newEntry t.id values).toObj.tail := by
      simp only [Entry.toObj, World.newEntry, h.now, List.cons_append, List.tail_cons]
    refine ⟨.result ?_, halike.found, halike.found', halike.fields, halike.down, halike.down'⟩
    rw [hnew w, hnew w', hrest]
    refine Obj.AgreesBut.cons ?_ _
    rfl

/-- An entry is changed alike. -/
theorem agree_storeChanged_down {e : Entry} (he : w.entries.find? t.id e.id = some e)
    (he' : w'.entries.find? t.id e.id = some e) (values : EntryValues) :
    Action.Agree (World.ShowAlike t) (fun o o' => o = o' ∧ o.isSome)
      (Memory.stores.updateEntry t.id e.id values) (Memory.stores.updateEntry t.id e.id values) w
      w' := by
  have hrun {w : World} (he : w.entries.find? t.id e.id = some e) :
      (Memory.stores.updateEntry t.id e.id values).run w =
        if w.entries.slugTaken t.id values.slug (some e.id) then (.error (slugRefusal values), w)
        else (.ok (some (w.changedEntry e values).toObj), w.withChanged e values) := by
    cases htaken : w.entries.slugTaken t.id values.slug (some e.id) with
    | true => simp [Memory.stores, Memory.updateEntry?, he, htaken, slugRefusal]
    | false =>
      simp [Memory.stores, Memory.updateEntry?, he, htaken, World.changedEntry, World.newVersion,
        World.withChanged, Except.map]
  have htaken : w.entries.slugTaken t.id values.slug (some e.id) =
      w'.entries.slugTaken t.id values.slug (some e.id) := by
    rw [EntryStore.slugTaken_eq_any, EntryStore.slugTaken_eq_any, h.same.entries]
  have hchanged : w.changedEntry e values = w'.changedEntry e values := by
    rw [World.changedEntry, World.changedEntry, h.now]
  have halike := h.showAlike
  rw [Action.Agree, hrun he, hrun he', ← htaken, ← hchanged]
  split
  · exact ⟨.fault _, halike⟩
  · exact ⟨.result ⟨rfl, rfl⟩, halike.found, halike.found', halike.fields, halike.down,
      halike.down'⟩

/-! ### Requests -/

variable {typeName : String} (ht : w.findType? typeName = some t)
  (ht' : w'.findType? typeName = some t)
include ht ht'

omit h in
/-- The type is found in both worlds, so that a request goes on with its record. -/
theorem agree_contentType_down {α : Type} {T : World → World → Prop} {R : α → α → Prop}
    {f : Obj → Action World α}
    (hf : Action.Agree T R (f t.toObj) (f t.toObj) w w') :
    Action.Agree T R (contentType Memory.stores typeName >>= f)
      (contentType Memory.stores typeName >>= f) w w' := by
  have hrun {w : World} (ht : w.findType? typeName = some t) :
      (contentType Memory.stores typeName >>= f).run w = (f t.toObj).run w := by
    rw [Action.run_bind, run_contentType, ht]
    rfl
  rw [Action.Agree, hrun ht, hrun ht']
  exact hf

theorem agree_getEntry_down (name : Value) :
    Action.Agree (Unchanged w w') (Obj.AgreesBut fun _ => False)
      (getEntry Memory.stores typeName name) (getEntry Memory.stores typeName name) w w' := by
  refine agree_contentType_down ht ht' ?_
  refine (agree_requireEntry_down h name).bind_of_unchanged ⟨rfl, rfl⟩ fun o _ ho => ?_
  obtain ⟨rfl, -⟩ := ho
  exact agree_resolveOne_down h.showAlike (.refl o)

theorem agree_listVersions_down (name : Value) :
    Action.Agree (Unchanged w w') Eq (listVersions Memory.stores typeName name)
      (listVersions Memory.stores typeName name) w w' := by
  refine agree_contentType_down ht ht' ?_
  refine (agree_requireEntry_down h name).bind_of_unchanged ⟨rfl, rfl⟩ fun o _ ho => ?_
  obtain ⟨rfl, e, rfl, he, -⟩ := ho
  have hmem : e ∈ w.entries.ofType t.id :=
    (EntryStore.mem_ofType_iff h.regular.entries.sound).mpr (EntryStore.find?_eq_some_iff.mp he)
  have hversions : (Memory.stores.versionsOf e.id).run w =
      (.ok ((w.entries.versionsOf e.id).map EntryVersion.toObj), w) := rfl
  have hversions' : (Memory.stores.versionsOf e.id).run w' =
      (.ok ((w'.entries.versionsOf e.id).map EntryVersion.toObj), w') := rfl
  refine agree_of_reads (Memory.isReading_stores.versionsOf _) ?_
  exact (congrArg Prod.fst hversions).trans
    (h.same.versions e hmem ▸ (congrArg Prod.fst hversions').symm)

theorem agree_listEntries_down (withDisplay : Bool) :
    Action.Agree (Unchanged w w') Eq (listEntries Memory.stores typeName withDisplay)
      (listEntries Memory.stores typeName withDisplay) w w' := by
  have hlisted : ((Memory.stores.listEntries t.id).run w).1 =
      ((Memory.stores.listEntries t.id).run w').1 := by
    have horder := EntryStore.mergeSort_ofType_congr h.regular.entries.sound
      h.regular'.entries.sound h.regular.ordered h.regular'.ordered h.same.entries
    exact congrArg (fun entries => Except.ok (List.map Entry.toObj entries)) horder
  have hsame : Unchanged w w' w w' := ⟨rfl, rfl⟩
  refine agree_contentType_down ht ht' ?_
  refine (agree_of_reads (Memory.isReading_stores.listEntries _) hlisted).bind_of_unchanged hsame
    fun entries _ heq => ?_
  subst heq
  have hresolve : Action.Agree (Unchanged w w') Eq (resolve Memory.stores t.id entries)
      (resolve Memory.stores t.id entries) w w' :=
    (agree_userContext_down h.showAlike entries entries).bind_of_unchanged hsame
      fun c _ heq => .pure (heq ▸ rfl) hsame
  refine hresolve.bind_of_unchanged hsame fun resolved _ heq => ?_
  subst heq
  cases withDisplay with
  | false => exact .pure rfl hsame
  | true =>
    refine (agree_fieldsOf_down h.showAlike).bind_of_unchanged hsame fun fields _ heq => ?_
    subst heq
    exact .lift (.refl _ fun _ _ => rfl) hsame

theorem agree_createEntryWith_down (mail : Format.MailReader) (request role : Value) :
    Action.Agree (World.ShowAlike t) (Obj.AgreesBut (· = "id"))
      (createEntryWith mail Memory.stores typeName request role)
      (createEntryWith mail Memory.stores typeName request role) w w' := by
  refine agree_contentType_down ht ht' ?_
  refine (agree_prepareWith_down h mail request role).bind_of_unchanged h.showAlike
    fun values _ heq => ?_
  subst heq
  refine (agree_storeNew_down h values).bind fun entry entry' s s' hentry hs => ?_
  exact (agree_resolveOne_down hs hentry).mono (fun _ _ => hs.of_unchanged) fun _ _ hshown => hshown

theorem agree_updateEntryWith_down (mail : Format.MailReader) (name request role : Value) :
    Action.Agree (World.ShowAlike t) (Obj.AgreesBut fun _ => False)
      (updateEntryWith mail Memory.stores typeName name request role)
      (updateEntryWith mail Memory.stores typeName name request role) w w' := by
  refine agree_contentType_down ht ht' ?_
  refine (agree_requireEntry_down h name).bind_of_unchanged h.showAlike fun o _ ho => ?_
  obtain ⟨rfl, e, rfl, he, he'⟩ := ho
  refine (agree_prepareWith_down h mail request role).bind_of_unchanged h.showAlike
    fun values _ heq => ?_
  subst heq
  refine (agree_storeChanged_down h he he' values).bind fun changed _ s s' hchanged hs => ?_
  obtain ⟨rfl, hsome⟩ := hchanged
  cases changed with
  | none => contradiction
  | some entry =>
    exact (agree_resolveOne_down hs (.refl entry)).mono (fun _ _ => hs.of_unchanged)
      fun _ _ hshown => hshown

theorem agree_deleteEntry_down (name : Value) :
    Action.Agree (World.ShowAlike t) Eq (deleteEntry Memory.stores typeName name)
      (deleteEntry Memory.stores typeName name) w w' := by
  have halike := h.showAlike
  refine agree_contentType_down ht ht' ?_
  refine (agree_requireEntry_down h name).bind_of_unchanged halike fun o _ ho => ?_
  obtain ⟨rfl, e, rfl, he, he'⟩ := ho
  have hfound {w : World} (he : w.entries.find? t.id e.id = some e) :
      ((Memory.stores.deleteEntry t.id e.id).run w).1 = .ok true := by
    have hrun : ((Memory.stores.deleteEntry t.id e.id).run w).1 =
        .ok (w.entries.find? t.id e.id).isSome := rfl
    rw [hrun, he, Option.isSome_some]
  have hdelete : Action.Agree (World.ShowAlike t) Eq (Memory.stores.deleteEntry t.id e.id)
      (Memory.stores.deleteEntry t.id e.id) w w' :=
    ⟨.of_eq ((hfound he).trans (hfound he').symm) fun _ => rfl,
      halike.found, halike.found', halike.fields, halike.down, halike.down'⟩
  refine hdelete.bind fun found _ s s' heq hs => ?_
  subst heq
  cases found with
  | false => exact .throw _ hs
  | true => exact .pure rfl hs

end Twins

end Service

/-! ### Calls -/

namespace ServiceCall

/-- The keys under which the answers to a call may differ between two worlds that agree on its type:
what is known of users, and the identifier of a new entry. -/
def MayDiffer : ServiceCall → String → Prop
  | create .., key => key = "id" ∨ key = "_resolved" ∨ key = "_display"
  | _, key => key = "_resolved" ∨ key = "_display"

/-- Where users cannot be looked up, a call about a type ends alike in two worlds that agree on the
type. -/
theorem agree_action_down (h : w.Twins t w') (mail : Format.MailReader) {c : ServiceCall}
    (hc : ∀ name field, c ≠ options name field) (ht : w.findType? c.typeName = some t)
    (ht' : w'.findType? c.typeName = some t) :
    Agree (List.Forall₂ (Obj.AgreesBut c.MayDiffer)) ((c.action mail).run w).1
      ((c.action mail).run w').1 := by
  have hsingle {x : Action World Obj} {T : World → World → Prop} {excepted p : String → Prop}
      (hx : Action.Agree T (Obj.AgreesBut excepted) x x w w') (hkeys : ∀ key, excepted key → p key) :
      Agree (List.Forall₂ (Obj.AgreesBut p)) ((do return [← x] : Action World (List Obj)).run w).1
        ((do return [← x] : Action World (List Obj)).run w').1 :=
    (hx.bind (T := T) fun _ _ _ _ hshown hs =>
      .pure (.cons (hshown.mono hkeys) .nil) hs).1
  have hequal {objs objs' : List Obj} {p : String → Prop} (heq : objs = objs') :
      List.Forall₂ (Obj.AgreesBut p) objs objs' :=
    heq ▸ List.forall₂_same.mpr fun o _ => .refl o
  cases c with
  | create typeName request role =>
    exact hsingle (Service.agree_createEntryWith_down h ht ht' mail request role)
      fun _ hkey => .inl hkey
  | update typeName name request role =>
    exact hsingle (Service.agree_updateEntryWith_down h ht ht' mail name request role)
      fun _ hkey => hkey.elim
  | delete typeName name =>
    exact ((Service.agree_deleteEntry_down h ht ht' name).bind fun _ _ _ _ _ hs =>
      .pure .nil hs).1
  | get typeName name =>
    exact hsingle (Service.agree_getEntry_down h ht ht' name) fun _ hkey => hkey.elim
  | list typeName withDisplay =>
    exact (Service.agree_listEntries_down h ht ht' withDisplay).1.mono fun _ _ heq => hequal heq
  | versions typeName name =>
    exact (Service.agree_listVersions_down h ht ht' name).1.mono fun _ _ heq => hequal heq
  | options typeName field => exact absurd rfl (hc typeName field)

/-- What is known of users changes nothing in an answer but what is shown of them. -/
theorem agree_with_down (hw : w.Regular) (mail : Format.MailReader) {c : ServiceCall}
    (hc : ∀ name field, c ≠ options name field) :
    Agree (List.Forall₂ (Obj.AgreesBut c.MayDiffer)) ((c.action mail).run w).1
      ((c.action mail).run { w with usersDown := true }).1 := by
  cases hdown : w.usersDown with
  | true =>
    have hsame : { w with usersDown := true } = w := by rw [← hdown]
    rw [hsame]
    exact .refl _ fun objs _ => List.forall₂_same.mpr fun o _ => .refl o
  | false =>
    have houtage : w.Outage { w with usersDown := true } := ⟨hdown, rfl, fun _ => hw.labels _⟩
    refine (agree_action houtage hw.types hw.fields mail c).1.mono fun shown hidden halike => ?_
    cases c with
    | create _ _ _ => exact halike.imp fun _ _ h => h.agreesBut.mono fun _ hkey => .inr (.inl hkey)
    | update _ _ _ _ | get _ _ => exact halike.imp fun _ _ h => h.agreesBut.mono fun _ => .inl
    | list _ withDisplay =>
      cases withDisplay with
      | false => exact halike.imp fun _ _ h => h.agreesBut.mono fun _ => .inl
      | true => exact halike.imp fun _ _ h => h.agreesBut
    | delete _ _ | versions _ _ => exact halike ▸ List.forall₂_same.mpr fun o _ => .refl o
    | options typeName field => exact absurd rfl (hc typeName field)

/-- A call about a type leaves everything that belongs to another type as it is. Its outcome depends
on what belongs to the type alone: in any other world that operations lead to, and that agrees with
this one on the type at the same time, it ends in the same fault or with the same entries in the
same order, save for what is known of users and for the identifier of a new entry. -/
theorem isolated (hw : w.Attained) (mail : Format.MailReader) {c : ServiceCall}
    (hc : ∀ name field, c ≠ options name field) (ht : w.findType? c.typeName = some t) :
    ((c.next mail w).types = w.types ∧ (c.next mail w).views = w.views ∧
      ∀ typeId, typeId ≠ t.id → w.SameOf typeId (c.next mail w)) ∧
    ∀ w' : World, w'.Attained → w'.origin.now = w.origin.now → t ∈ w'.types →
      w.SameOf t.id w' →
      Agree (List.Forall₂ (Obj.AgreesBut c.MayDiffer)) ((c.action mail).run w).1
        ((c.action mail).run w').1 := by
  have hregular := hw.regular
  refine ⟨?_, fun w' hw' hnow ht' hsame => ?_⟩
  · rcases c.callsOnce_next mail w with hnext | ⟨u, call, hu, hcall, hnext⟩
    · rw [hnext]
      exact ⟨rfl, rfl, fun typeId _ => .refl typeId w⟩
    · obtain rfl := Option.some.inj (ht.symm.trans hu)
      have hkeeps (typeId : String) (hne : typeId ≠ t.id) :=
        EntryCall.keeps_next hregular.entries (hcall ▸ hne.symm : call.typeId ≠ typeId)
      obtain ⟨issued, entries, heq⟩ := World.next_eq call w
      rw [heq] at hkeeps
      rw [hnext, heq]
      exact ⟨rfl, rfl, fun typeId hne => ⟨rfl, .refl _, (hkeeps typeId hne).ofType.symm,
        fun e he => ((hkeeps typeId hne).versions e he).symm⟩⟩
  · have hregular' := hw'.regular
    have hmem := World.mem_of_findType? ht
    have hfound := (hregular'.types.findType?_eq_some_iff ht').mpr
      ((hregular.types.findType?_eq_some_iff hmem).mp ht)
    have htwins : World.Twins t { w with usersDown := true } { w' with usersDown := true } :=
      ⟨hregular.withoutUsers, hregular'.withoutUsers, hmem, ht', ⟨hsame.fields, hsame.views,
        hsame.entries, hsame.versions⟩, hnow.symm, rfl, rfl⟩
    have hagree := (agree_with_down hregular mail hc).trans
      ((agree_action_down htwins mail hc ht hfound).trans (agree_with_down hregular' mail hc).symm)
    refine hagree.mono fun objs objs' ⟨_, hshown, _, hhidden, hshown'⟩ => ?_
    exact Obj.AgreesBut.forall₂_of_common hshown
      (Obj.AgreesBut.forall₂_of_common hshown' hhidden)

end ServiceCall

/-! ### Albums and pages -/

namespace World

/-- What is stored of the type of pages. -/
def pageValues : TypeValues := ⟨"pages", .content, "Page", "Pages", "", ""⟩

/-- The type of pages, which is made after the first album. -/
def pageType : ContentType := albumsWorld.newType pageValues

/-- A page. -/
def secondPage : EntryValues := ⟨.str "Second", "second", .str "draft", .obj []⟩

/-- The world with the album and the page. -/
def pagesWorld : World := (albumsWorld.issue.addType pageType).withNew pageType.id secondPage

/-- The world with the album and the type of pages, of which there is none. -/
theorem attained_pages : (albumsWorld.issue.addType pageType).Attained := by
  have hvalues : ContentType.prepare (.obj [("label_singular", .str "Page")]) [] =
      .ok pageValues := Outcome.eq_ok_of_toOption (by decide +kernel)
  have hstep : albumsWorld.Step (albumsWorld.issue.addType pageType) :=
    .addType hvalues (by decide +kernel)
  exact attained_albumsWorld.operation (.step hstep rfl)

theorem attained_pagesWorld : pagesWorld.Attained := by
  have hstep : (albumsWorld.issue.addType pageType).Step pagesWorld :=
    .entry (.create pageType.id secondPage) fun _ _ heq => by
      cases heq
      exact ⟨pageType, List.mem_append_right _ (List.mem_singleton_self _), rfl⟩
  exact attained_pages.operation (.step hstep rfl)

theorem sameOf_albums : albumsWorld.SameOf albumType.id pagesWorld := by
  have hkeeps : albumsWorld.entries.Keeps albumType.id pagesWorld.entries :=
    EntryStore.keeps_add attained_pages.regular.entries.has_latest (by decide +kernel)
  exact ⟨rfl, .refl _, hkeeps.ofType.symm, fun e he => (hkeeps.versions e he).symm⟩

end World

namespace ServiceCall

/-- A request for a second album. -/
def secondAlbum : ServiceCall := .create "albums" (.obj [("title", .str "Second")]) (.str "ADMIN")

/-- A second album is stored alike whether or not there is a page of its slug. -/
theorem album_stored_beside_page :
    World.albumsWorld.SameOf albumType.id World.pagesWorld ∧
      Agree (List.Forall₂ (Obj.AgreesBut secondAlbum.MayDiffer))
        ((secondAlbum.action Format.readEmail?).run World.albumsWorld).1
        ((secondAlbum.action Format.readEmail?).run World.pagesWorld).1 := by
  have hmem : albumType ∈ World.albumsWorld.types := List.mem_singleton_self _
  have hfind : World.albumsWorld.findType? secondAlbum.typeName = some albumType :=
    World.attained_albumsWorld.regular.types.findType?_slug hmem
  have hnot (name : String) (field : Value) : secondAlbum ≠ options name field := nofun
  obtain ⟨-, halike⟩ := isolated World.attained_albumsWorld Format.readEmail? hnot hfind
  exact ⟨World.sameOf_albums, halike World.pagesWorld World.attained_pagesWorld rfl
    (List.mem_append_left _ hmem) World.sameOf_albums⟩

end ServiceCall

end ContentEngine
