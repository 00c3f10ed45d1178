import ContentEngine.Proofs.ContentType.Field
import ContentEngine.Proofs.Display.Users
import ContentEngine.Proofs.Json.Text
import ContentEngine.Proofs.Memory.Users
import ContentEngine.Proofs.Service.Shown
import ContentEngine.Proofs.World.Fields

/-!
# What the service shows of users

Two worlds are compared that differ in one thing: in the second one users cannot be looked up
(`World.Outage`). Whatever does not look at users is done alike. An entry is shown with the same
settings of its user fields in both, and with no users in the second one
(`Service.agree_resolveOne`); a list of entries with texts differs in the texts of user fields as
well (`Service.agree_listEntries`). No look-up of users ends in a fault.
-/

namespace ContentEngine

open Outcome (HasResult)
open Action (IsReadOnly IgnoresUsers)

variable {w w' : World}

/-! ### Two worlds, one of them without users -/

/-- Whether a world is like another one in which users can be looked up, except that they cannot.
Every user has a label. -/
structure World.Outage (w w' : World) : Prop where
  up : w.usersDown = false
  down : w' = w.knowing w.users true
  labels : ∀ u ∈ w.users, u.name.HasText ∧ u.email.HasText

theorem World.Outage.of_unchanged (h : w.Outage w') {s s' : World}
    (hs : Action.Unchanged w w' s s') : s.Outage s' := by
  obtain ⟨rfl, rfl⟩ := hs
  exact h

variable {α : Type} {x : Action World α}

theorem Action.IgnoresUsers.users_eq (hx : IgnoresUsers x) (w : World) :
    (x.run w).2.users = w.users ∧ (x.run w).2.usersDown = w.usersDown := by
  have hafter : (x.run w).2 = (x.run w).2.knowing w.users w.usersDown :=
    congrArg Prod.snd (hx w w.users w.usersDown)
  exact ⟨(congrArg World.users hafter).trans rfl, (congrArg World.usersDown hafter).trans rfl⟩

/-- What does not depend on users is done alike in both worlds. -/
theorem Action.IgnoresUsers.agree (hx : IgnoresUsers x) (h : w.Outage w') :
    Action.Agree World.Outage Eq x x w w' := by
  obtain ⟨husers, hdown⟩ := hx.users_eq w
  rw [Action.Agree, h.down, hx w w.users true]
  refine ⟨.refl _ fun _ _ => rfl, hdown.trans h.up, ?_, ?_⟩
  · rw [husers]
  · rw [husers]
    exact h.labels

/-- What is read without looking at users is the same in both worlds. -/
theorem Action.IgnoresUsers.agree_of_isReadOnly (hx : IgnoresUsers x) (hread : IsReadOnly x)
    (h : w.Outage w') :
    Action.Agree (Action.Unchanged w w') (fun a a' => a = a' ∧ (x.run w).1 = .ok a) x x w w' := by
  refine ⟨?_, (hread w).symm, (hread w').symm⟩
  rw [h.down, hx w w.users true]
  exact .refl _ fun a ha => ⟨rfl, ha⟩

/-- Whether a key is that of a user field of the type with a name. -/
def World.IsUserKey (w : World) (typeName key : String) : Prop :=
  ∃ t, w.findType? typeName = some t ∧
    ∃ f ∈ w.fieldsOf t.id, f.input.kind = .relationUser ∧ f.input.key = key

namespace Service

open Display (UserContext)

/-! ### Looking users up -/

/-- What is shown of users to everyone has a label if the users have one. -/
theorem hasLabels_of_publicUsers {users : List Obj} {known settings : Obj}
    (h : publicUsers users = .ok known)
    (hlabels : ∀ u ∈ users, (Obj.get u "name").HasText ∧ (Obj.get u "email").HasText) :
    UserContext.HasLabels ⟨settings, known⟩ := by
  intro id o ho
  simp only [publicUsers, Outcome.bind_eq_ok_iff, Outcome.pure_eq_ok_iff] at h
  obtain ⟨members, hmembers, rfl⟩ := h
  cases hget : Obj.get? (Obj.ofMembers members) id with
  | none =>
    simp only [Obj.get, hget, Option.getD_none] at ho
    cases ho
  | some v =>
    simp only [Obj.get, hget, Option.getD_some] at ho
    obtain ⟨m, hm, rfl⟩ := Obj.exists_of_get? hget
    obtain ⟨u, hu, hshown⟩ := Outcome.exists_of_mem_mapM hmembers (Obj.mem_of_mem_ofMembers hm)
    simp only [Relation.publicUser, Outcome.bind_eq_ok_iff, Outcome.pure_eq_ok_iff] at hshown
    obtain ⟨_, ⟨text, -, rfl⟩, rfl⟩ := hshown
    obtain rfl := Option.some.inj ho
    exact hlabels u (List.mem_of_mem_filter hu)

/-- Users are looked up with success in one world, and in the other one none is known. -/
theorem agree_lookUpUsers (h : w.Outage w') (settings : Obj) (ids : List String) :
    Action.Agree (Action.Unchanged w w')
      (fun users users' => users' = [] ∧ UserContext.HasLabels ⟨settings, users⟩)
      (lookUpUsers Memory.stores ids) (lookUpUsers Memory.stores ids) w w' := by
  have hnone : UserContext.HasLabels ⟨settings, []⟩ := by
    intro id o ho
    cases ho
  refine ⟨?_, (isReadOnly_lookUpUsers Memory.isReading_stores ids w).symm,
    (isReadOnly_lookUpUsers Memory.isReading_stores ids w').symm⟩
  rw [lookUpUsers]
  split
  · exact .result ⟨rfl, hnone⟩
  · have hdown : (Memory.stores.getUsers ids).run w' = (.error (userLookupFailed .null), w') := by
      simp [Memory.stores, Memory.getUsers, h.down, World.knowing]
    obtain ⟨found, hfound, hup⟩ : ∃ found : List User, (∀ u ∈ found, u ∈ w.users) ∧
        (Memory.stores.getUsers ids).run w = (.ok (found.map User.toObj), w) := by
      refine ⟨ids.filterMap fun id => w.users.find? fun u => (Value.str id).isText u.id, ?_, ?_⟩
      · intro u hu
        obtain ⟨id, -, hfind⟩ := List.mem_filterMap.mp hu
        exact List.mem_of_find?_eq_some hfind
      · simp [Memory.stores, Memory.getUsers, h.up]
    rw [Action.run_tryCatch, Action.run_tryCatch, Action.run_bind, Action.run_bind, hdown, hup]
    simp only [Action.run_lift, Action.run_pure]
    cases hknown : publicUsers (found.map User.toObj) with
    | error e => exact .result ⟨rfl, hnone⟩
    | ok known =>
      refine .result ⟨rfl, hasLabels_of_publicUsers hknown fun o ho => ?_⟩
      obtain ⟨u, hu, rfl⟩ := List.mem_map.mp ho
      exact h.labels u (hfound u hu)

/-! ### Entries as they are shown -/

/-- Whether two objects show one entry, the second one as if no user could be looked up: it holds
the same settings of user fields, and no users. -/
def SameButUsers (shown hidden : Obj) : Prop :=
  ∃ entry settings users : Obj,
    shown = Obj.set entry "_resolved"
      (.obj [("userFields", .obj settings), ("usersById", .obj users)]) ∧
    hidden = Obj.set entry "_resolved"
      (.obj [("userFields", .obj settings), ("usersById", .obj [])])

/-- Whether two objects show one entry with its values as texts, the second one as if no user could
be looked up: the texts have the same keys and differ under the keys of user fields only. -/
def SameButUsersAndTexts (isUserKey : String → Prop) (shown hidden : Obj) : Prop :=
  ∃ resolved resolved' texts texts' : Obj, SameButUsers resolved resolved' ∧
    shown = Obj.set resolved "_display" (.obj texts) ∧
    hidden = Obj.set resolved' "_display" (.obj texts') ∧ texts.AgreesBut isUserKey texts'

theorem sameButUsers_withUsers (c : UserContext) (entry : Obj) :
    SameButUsers (withUsers c entry) (withUsers c.withoutUsers entry) :=
  ⟨entry, c.fields, c.users, rfl, rfl⟩

/-- What is known about users is the same but for the users. -/
theorem agree_userContext (h : w.Outage w') (typeId : String) (entries : List Obj) :
    Action.Agree (Action.Unchanged w w') (fun c c' => c' = c.withoutUsers ∧ c.HasLabels)
      (userContext Memory.stores typeId entries) (userContext Memory.stores typeId entries) w
      w' := by
  rw [userContext]
  split
  · refine .pure ⟨rfl, fun id o ho => ?_⟩ ⟨rfl, rfl⟩
    cases ho
  · have hfields := (Memory.ignoresUsers_getFields typeId).agree_of_isReadOnly
      (Memory.isReadOnly_getFields typeId) h
    refine hfields.bind_of_unchanged ⟨rfl, rfl⟩ fun fields _ hfields => ?_
    obtain ⟨rfl, -⟩ := hfields
    refine Action.Agree.bind_lift _ ⟨rfl, rfl⟩ fun settings => ?_
    refine .bind (agree_lookUpUsers h settings _) fun users users' _ _ husers hs => ?_
    exact .pure ⟨congrArg (UserContext.mk settings) husers.1, husers.2⟩ hs

/-- Entries are shown with what is known about users. -/
theorem agree_resolve (h : w.Outage w') (typeId : String) (entries : List Obj) :
    Action.Agree (Action.Unchanged w w')
      (fun resolved resolved' => ∃ c : UserContext, c.HasLabels ∧
        resolved = entries.map (withUsers c) ∧ resolved' = entries.map (withUsers c.withoutUsers))
      (resolve Memory.stores typeId entries) (resolve Memory.stores typeId entries) w w' :=
  (agree_userContext h typeId entries).bind fun c _ _ _ hc hs =>
    .pure ⟨c, hc.2, rfl, by rw [hc.1]⟩ hs

theorem agree_resolveOne (h : w.Outage w') (typeId : String) (entry : Obj) :
    Action.Agree World.Outage SameButUsers (resolveOne Memory.stores typeId entry)
      (resolveOne Memory.stores typeId entry) w w' := by
  have hcontext := (agree_userContext h typeId [entry]).mono
    (fun _ _ => World.Outage.of_unchanged h) fun _ _ hc => hc
  exact hcontext.bind fun c c' _ _ hc hs => .pure (hc.1 ▸ sameButUsers_withUsers c entry) hs

/-! ### Lists -/

/-- The texts of an entry are written from its data and from what is known about its users. -/
theorem withTexts_withUsers (c : UserContext) (fields : List PresentedField) (entry : Obj) :
    withTexts fields (withUsers c entry) = do
      let texts ← Display.entryTexts c (Obj.getObj entry "data") (fields.map fun p => p.toObj)
      return Obj.set (withUsers c entry) "_display" (.obj texts) := by
  have hcontext : UserContext.ofValue (Obj.get (withUsers c entry) "_resolved") = c := by
    rw [withUsers, Obj.get_set_self]
    rfl
  have hdata : Obj.getObj (withUsers c entry) "data" = Obj.getObj entry "data" := by
    rw [Obj.getObj, Obj.get, withUsers, Obj.get?_set, if_neg (by decide)]
    rfl
  simp only [withTexts, hcontext, hdata]

/-- The texts of an entry differ as what is known about its users does. -/
theorem agree_withTexts {c : UserContext} (h : c.HasLabels) {isUserKey : String → Prop}
    {fields : List PresentedField} (hkeys : ∀ p ∈ fields, p.definition.kind = .relationUser →
      isUserKey p.definition.key) (entry : Obj) :
    Outcome.Agree (SameButUsersAndTexts isUserKey) (withTexts fields (withUsers c entry))
      (withTexts fields (withUsers c.withoutUsers entry)) := by
  rw [withTexts_withUsers, withTexts_withUsers]
  refine (Display.agree_entryTexts h _ _).bind fun texts texts' htexts => .result
    ⟨_, _, texts, texts', sameButUsers_withUsers c entry, rfl, rfl, htexts.mono ?_⟩
  rintro key ⟨o, ho, hkey, hkind⟩
  obtain ⟨p, hp, rfl⟩ := List.mem_map.mp ho
  have hname : FieldKind.ofValue (.str p.definition.kind.name) = .ok .relationUser := hkind
  rw [FieldKind.ofValue_name, Except.ok.injEq] at hname
  exact hkey ▸ hkeys p hp hname

theorem isUserKey_of_listOf {typeName : String} {t : ContentType} (hfields : w.FieldsSound)
    (ht : w.findType? typeName = some t) {fields : List PresentedField}
    (h : PresentedField.listOf ((w.fieldsOf t.id).map StoredField.toObj) = .ok fields)
    {p : PresentedField} (hp : p ∈ fields) (hkind : p.definition.kind = .relationUser) :
    w.IsUserKey typeName p.definition.key := by
  have hperm := PresentedField.perm_of_listOf (hfields.fieldsOf t.id) h
  obtain ⟨f, hf, hsame⟩ := List.mem_map.mp (hperm.mem_iff.mp (List.mem_map_of_mem hp))
  obtain ⟨hkey, hkind'⟩ := Prod.mk.inj hsame
  exact ⟨t, ht, f, hf, hkind'.trans hkind, hkey⟩

/-- Entries are listed alike in both worlds. -/
theorem agree_listEntries (h : w.Outage w') (hw : w.TypesSound) (hfields : w.FieldsSound)
    (typeName : String) (withDisplay : Bool) :
    Action.Agree World.Outage
      (List.Forall₂ (if withDisplay then SameButUsersAndTexts (w.IsUserKey typeName)
        else SameButUsers))
      (listEntries Memory.stores typeName withDisplay)
      (listEntries Memory.stores typeName withDisplay) w w' := by
  have hreading := Memory.isReading_stores
  have hignoring := Memory.readWith_ignoresUsers
  -- nothing is written on the way, so that each step starts from the given worlds again
  refine .mono (T := Action.Unchanged w w') ?_ (fun _ _ => h.of_unchanged) fun _ _ hR => hR
  have hsame : Action.Unchanged w w' w w' := ⟨rfl, rfl⟩
  have hfound := (contentType_with IgnoresUsers.isCompositional hignoring
    typeName).agree_of_isReadOnly (isReadOnly_contentType hreading typeName) h
  refine hfound.bind_of_unchanged hsame fun record _ hrecord => ?_
  obtain ⟨rfl, hrecord⟩ := hrecord
  obtain ⟨t, ht, rfl⟩ := exists_of_contentType_eq_ok hrecord
  have hid : w.findType? t.id = some t := hw.findType?_id (World.mem_of_findType? ht)
  have hlisted := (hignoring.listEntries t.id).agree_of_isReadOnly (hreading.listEntries t.id) h
  refine hlisted.bind_of_unchanged hsame fun entries _ hentries => ?_
  obtain ⟨rfl, -⟩ := hentries
  refine (agree_resolve h _ entries).bind_of_unchanged hsame fun resolved resolved' hresolved => ?_
  obtain ⟨c, hlabels, rfl, rfl⟩ := hresolved
  cases withDisplay with
  | false =>
    refine .pure ?_ hsame
    rw [List.forall₂_map_left_iff, List.forall₂_map_right_iff]
    exact List.forall₂_same.mpr fun entry _ => sameButUsers_withUsers c entry
  | true =>
    have hfieldsOf := (hignoring.fieldsOf t.id).agree_of_isReadOnly (hreading.fieldsOf t.id) h
    refine hfieldsOf.bind_of_unchanged hsame fun fields _ hread => ?_
    obtain ⟨rfl, hread⟩ := hread
    have hlist : PresentedField.listOf ((w.fieldsOf t.id).map StoredField.toObj) = .ok fields := by
      have hrun := Memory.run_getFields hid
      exact (congrArg Prod.fst hrun).symm.trans hread
    refine .lift (.mapM ?_) hsame
    rw [List.forall₂_map_left_iff, List.forall₂_map_right_iff]
    exact List.forall₂_same.mpr fun entry _ => agree_withTexts hlabels
      (fun p hp hkind => isUserKey_of_listOf hfields ht hlist hp hkind) entry

end Service

end ContentEngine
