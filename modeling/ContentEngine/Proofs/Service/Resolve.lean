import ContentEngine.Proofs.Field.Settings
import ContentEngine.Proofs.Json.Document
import ContentEngine.Proofs.Registry.Reads
import ContentEngine.Proofs.Service.Shown

/-!
# What is known of the users that entries refer to

Which users some entries refer to is told without running through them: `Value.Mentions` says that a
value, or an item of a list, spells the identifier of a user, and `Relation.RefersTo` that an entry
has such a value under the key of a user field. The users that are looked up are these, each once
and in the order in which they are first mentioned (`Relation.mem_collectUsers`,
`Relation.pairwise_collectUsers`).

`resolve_complete` puts this together with the look-up: every entry is shown as it is, with the
settings of all user fields and with the users that are both referred to and known, and no others.
-/

namespace ContentEngine

open Outcome (HasResult)

/-! ### Who is mentioned -/

/-- Whether a value names the user with an identifier. -/
inductive Value.NamesUser : Value → String → Prop
  | identifier (u : Identifier) : NamesUser (.identifier u) u.text
  | text {s : String} : (Identifier.ofText? (trim s)).isSome → NamesUser (.str s) (trim s)

/-- Whether a value, or an item of a list, names the user with an identifier. -/
inductive Value.Mentions : Value → String → Prop
  | itself {v : Value} {id : String} : v.NamesUser id → v.Mentions id
  | item {items : List Value} {v : Value} {id : String} :
      v ∈ items → v.NamesUser id → Mentions (.list items) id

namespace Value

variable {v : Value} {id : String}

theorem identifierText?_eq_some_iff : v.identifierText? = some id ↔ v.NamesUser id := by
  constructor
  · intro h
    cases v with
    | identifier u =>
      rw [identifierText?, Option.some.injEq] at h
      exact h ▸ .identifier u
    | str s =>
      rw [identifierText?, Option.ite_none_right_eq_some, Option.some.injEq] at h
      exact h.2 ▸ .text h.1
    | _ => simp [identifierText?] at h
  · rintro (u | hspells)
    · rw [identifierText?]
    · rw [identifierText?, if_pos hspells]

/-- The identifiers in a value, or in the items of a list. -/
theorem mem_filterMap_identifierText? :
    id ∈ (v.asList?.getD [v]).filterMap identifierText? ↔ v.Mentions id := by
  simp only [List.mem_filterMap, identifierText?_eq_some_iff]
  constructor
  · rintro ⟨item, hitem, hnames⟩
    cases v with
    | list items => exact .item hitem hnames
    | _ =>
      obtain rfl := List.mem_singleton.mp hitem
      exact .itself hnames
  · rintro (hnames | ⟨hitem, hnames⟩)
    · refine ⟨v, ?_, hnames⟩
      cases hnames <;> exact List.mem_singleton_self _
    · exact ⟨_, hitem, hnames⟩

end Value

namespace Relation

variable {fields : List PresentedField} {seen texts : List String} {text id : String}

/-- The fields that refer to users. -/
def userFieldsOf (fields : List PresentedField) : List PresentedField :=
  fields.filter fun p => p.definition.kind = .relationUser

/-- Whether an entry refers to a user under the key of some field. -/
def RefersTo (fields : List PresentedField) (entry : Obj) (id : String) : Prop :=
  ∃ p ∈ fields, p.definition.kind = .relationUser ∧
    (Obj.get (Obj.getObj entry "data") p.definition.key).Mentions id

/-- The users that some entries refer to, once for each time that they are mentioned: by entry, then
by field, then by place in a list. -/
def mentions (fields : List PresentedField) (entries : List Obj) : List String :=
  entries.flatMap fun entry => (userFieldsOf fields).flatMap fun p =>
    let v := Obj.get (Obj.getObj entry "data") p.definition.key
    (v.asList?.getD [v]).filterMap Value.identifierText?

theorem mem_mentions {entries : List Obj} :
    id ∈ mentions fields entries ↔ ∃ entry ∈ entries, RefersTo fields entry id := by
  simp only [mentions, List.mem_flatMap, Value.mem_filterMap_identifierText?, userFieldsOf,
    List.mem_filter, decide_eq_true_eq, RefersTo, and_assoc]

/-! ### First places -/

theorem mem_firstPlaces : text ∈ firstPlaces seen texts ↔ text ∈ texts ∧ text ∉ seen := by
  induction texts generalizing seen with
  | nil => simp [firstPlaces]
  | cons first rest ih =>
    rw [firstPlaces]
    split
    · next hseen =>
      rw [ih, List.mem_cons, or_and_right]
      refine (or_iff_right ?_).symm
      rintro ⟨rfl, hnot⟩
      exact hnot hseen
    · next hnew =>
      rw [List.mem_cons, ih, List.mem_cons, List.mem_cons, not_or, or_and_right]
      by_cases h : text = first
      · subst h
        simp [hnew]
      · simp [h]

/-- Texts that are left at their first places stand in the order of these. -/
theorem pairwise_firstPlaces (seen texts : List String) :
    (firstPlaces seen texts).Pairwise fun a b => texts.idxOf a < texts.idxOf b := by
  induction texts generalizing seen with
  | nil => exact .nil
  | cons first rest ih =>
    -- what comes after the first text and differs from it has its place one further on
    have hlater (seen' : List String) (hfirst : first ∈ seen') :
        (firstPlaces seen' rest).Pairwise
          fun a b => (first :: rest).idxOf a < (first :: rest).idxOf b := by
      refine (ih seen').imp_of_mem fun {a b} ha hb hlt => ?_
      have hne {c : String} (hc : c ∈ firstPlaces seen' rest) : c ≠ first := by
        rintro rfl
        exact (mem_firstPlaces.mp hc).2 hfirst
      rw [List.idxOf_cons_ne _ (hne ha).symm, List.idxOf_cons_ne _ (hne hb).symm]
      exact Nat.succ_lt_succ hlt
    rw [firstPlaces]
    split
    · next hseen => exact hlater seen hseen
    · refine List.pairwise_cons.mpr ⟨fun b hb => ?_, hlater _ List.mem_cons_self⟩
      have hne : b ≠ first := by
        rintro rfl
        exact (mem_firstPlaces.mp hb).2 List.mem_cons_self
      rw [List.idxOf_cons_self, List.idxOf_cons_ne _ hne.symm]
      exact Nat.succ_pos _

/-! ### The users that are looked up -/

theorem collectUsers_eq (fields : List PresentedField) (entries : List Obj) :
    collectUsers ((userFieldsOf fields).map fun p => p.definition.key) (entries.map .obj) =
      firstPlaces [] (mentions fields entries) := by
  rw [collectUsers, List.flatMap_map, mentions]
  simp only [referredUsers, List.flatMap_map]
  rfl

theorem mem_collectUsers {entries : List Obj} :
    id ∈ collectUsers ((userFieldsOf fields).map fun p => p.definition.key) (entries.map .obj) ↔
      ∃ entry ∈ entries, RefersTo fields entry id := by
  rw [collectUsers_eq, mem_firstPlaces, mem_mentions, and_iff_left List.not_mem_nil]

theorem pairwise_collectUsers (fields : List PresentedField) (entries : List Obj) :
    (collectUsers ((userFieldsOf fields).map fun p => p.definition.key)
      (entries.map .obj)).Pairwise fun a b =>
        (mentions fields entries).idxOf a < (mentions fields entries).idxOf b := by
  rw [collectUsers_eq]
  exact pairwise_firstPlaces [] _

/-! ### The settings of user fields -/

/-- The settings of a user field as they stand in its configuration. -/
def settingsOf (p : PresentedField) : Obj :=
  ["multiple", "display", "roleFilter", "onlyActive"].map fun key =>
    (key, Obj.get p.definition.config key)

/-- What is said of a field: its key and its settings if it refers to users, and otherwise
nothing. -/
def shownSetting? (p : PresentedField) : Option (String × Value) :=
  if p.definition.kind = .relationUser then some (p.definition.key, .obj (settingsOf p)) else none

/-- The settings of all user fields, under the keys of these. -/
def userSettings (fields : List PresentedField) : Obj :=
  (userFieldsOf fields).map fun p => (p.definition.key, .obj (settingsOf p))

theorem keys_userSettings (fields : List PresentedField) :
    Obj.keys (userSettings fields) = (userFieldsOf fields).map fun p => p.definition.key := by
  rw [Obj.keys, Table.keys, userSettings, List.map_map]
  rfl

theorem userSettings_eq_filterMap (fields : List PresentedField) :
    userSettings fields = fields.filterMap shownSetting? := by
  rw [userSettings, userFieldsOf, ← List.filterMap_eq_map, List.filterMap_filter]
  refine List.filterMap_congr fun p _ => ?_
  by_cases hkind : p.definition.kind = .relationUser <;> simp [shownSetting?, hkind]

/-- The configuration of a user field that is read holds settings in strict form. -/
theorem exists_userReference {stored : List Obj} (h : PresentedField.listOf stored = .ok fields)
    {p : PresentedField} (hp : p ∈ fields) (hkind : p.definition.kind = .relationUser) :
    ∃ r : UserReference, r.IsNormal p.definition.config := by
  obtain ⟨config, hnormal⟩ := PresentedField.exists_normalConfig_of_listOf h hp
  rw [hkind, FieldDef.normalConfig_of_ne (by decide)] at hnormal
  obtain ⟨r, hr, hp⟩ := Outcome.bind_eq_ok_iff.mp hnormal
  have hsettings := UserReference.isNormal_of_ofConfig hr
  rw [Outcome.pure_eq_ok_iff.mp hp] at hsettings
  exact ⟨r, hsettings⟩

/-- A field that is read is taken for a user field exactly if it is one, with the settings of its
strict form. -/
theorem exists_userField? {stored : List Obj} (h : PresentedField.listOf stored = .ok fields)
    {p : PresentedField} (hp : p ∈ fields) (hkey : p.definition.key ≠ "") :
    ∃ setting, userField? (.obj p.toObj) = .ok setting ∧
      setting.map (fun s => (s.1, Value.obj s.2.toObj)) = shownSetting? p := by
  have hname : Obj.firstTruthy p.toObj ["key", "field_key"] = .str p.definition.key :=
    if_pos (Value.truthy_str hkey)
  have htype : Obj.get p.toObj "type" = .str p.definition.kind.name := rfl
  have hconfig : Obj.getObj p.toObj "config" = p.definition.config := rfl
  simp only [userField?, Value.asObj?, htype, hconfig, hname]
  by_cases hkind : p.definition.kind = .relationUser
  · -- the configuration is in strict form already, so that reading it again changes nothing
    obtain ⟨r, hsettings⟩ := exists_userReference h hp hkind
    have hget : ∀ member ∈ r.toObj, Obj.get p.definition.config member.1 = member.2 :=
      fun member hmember => Obj.get_of_get?_eq_some (hsettings.members member hmember)
    simp only [UserReference.toObj, List.forall_mem_cons, List.not_mem_nil] at hget
    refine ⟨some (p.definition.key, r), ?_, ?_⟩
    · rw [hkind, hsettings.ofConfig_eq]
      rfl
    · rw [shownSetting?, if_pos hkind, settingsOf]
      simp [hget, UserReference.toObj]
  · refine ⟨none, ?_, by rw [shownSetting?, if_neg hkind, Option.map_none]⟩
    have hother : (Value.str p.definition.kind.name).isText "relation_user" = false := by
      cases hk : p.definition.kind <;> first | rfl | exact absurd hk hkind
    rw [hother]
    rfl

/-- The answers for all fields come down to the settings of the user fields. -/
theorem exists_mapM_userField? (h : ∀ p ∈ fields, ∃ setting,
      userField? (.obj p.toObj) = .ok setting ∧
        setting.map (fun s => (s.1, Value.obj s.2.toObj)) = shownSetting? p) :
    ∃ settings, (fields.map fun p => Value.obj p.toObj).mapM userField? = .ok settings ∧
      (settings.filterMap fun s => s).map (fun s => (s.1, Value.obj s.2.toObj)) =
        fields.filterMap shownSetting? := by
  induction fields with
  | nil => exact ⟨[], rfl, rfl⟩
  | cons p rest ih =>
    rw [List.forall_mem_cons] at h
    obtain ⟨⟨setting, hsetting, hfirst⟩, hrest⟩ := h
    obtain ⟨settings, hsettings, hothers⟩ := ih hrest
    refine ⟨setting :: settings, ?_, ?_⟩
    · rw [List.map_cons, List.mapM_cons, hsetting, Outcome.ok_bind, hsettings]
      rfl
    · rw [List.filterMap_cons, List.filterMap_cons, ← hfirst, ← hothers]
      cases setting <;> rfl

theorem userFields_eq {stored : List Obj} (h : PresentedField.listOf stored = .ok fields)
    (hkeys : ∀ p ∈ fields, p.definition.key ≠ "")
    (hnodup : (fields.map fun p => p.definition.key).Nodup) :
    userFields (fields.map fun p => .obj p.toObj) = .ok (userSettings fields) := by
  obtain ⟨settings, hsettings, hshown⟩ := exists_mapM_userField? fun p hp =>
    exists_userField? h hp (hkeys p hp)
  have hmembers : ((userSettings fields).map (·.1)).Nodup := by
    have hkeysOf : (userSettings fields).map (·.1) =
        (userFieldsOf fields).map fun p => p.definition.key := keys_userSettings fields
    have hsub : (userFieldsOf fields).Sublist fields := List.filter_sublist
    rw [hkeysOf]
    exact (hsub.map _).nodup hnodup
  rw [userFields, hsettings, Outcome.ok_bind]
  simp only
  rw [hshown, ← userSettings_eq_filterMap, Obj.ofMembers_eq_self hmembers]
  rfl

end Relation

namespace Service

variable {w : World} {ids : List String}

/-! ### Looking users up -/

/-- Of some identifiers, those of users that are known, with what is shown of these to everyone. -/
def knownUsers (w : World) (ids : List String) : Obj :=
  ids.filterMap fun id => (w.users.find? fun u => u.id == id).map fun u => (id, .obj u.toObj)

theorem keys_knownUsers_sublist (w : World) (ids : List String) :
    (Obj.keys (knownUsers w ids)).Sublist ids := by
  have hkeys : Obj.keys (knownUsers w ids) =
      ids.filter fun id => (w.users.find? fun u => u.id == id).isSome := by
    rw [Obj.keys, Table.keys, knownUsers, List.map_filterMap, ← List.filterMap_eq_filter]
    refine List.filterMap_congr fun id _ => ?_
    cases hfind : w.users.find? fun u => u.id == id <;> simp [Option.guard, hfind]
  rw [hkeys]
  exact List.filter_sublist

theorem get?_knownUsers (hids : ids.Nodup) {id : String} {v : Value} :
    Obj.get? (knownUsers w ids) id = some v ↔
      id ∈ ids ∧ ∃ u, w.users.find? (fun u => u.id == id) = some u ∧ v = .obj u.toObj := by
  have hnodup := (keys_knownUsers_sublist w ids).nodup hids
  have hmem : Obj.get? (knownUsers w ids) id = some v ↔ (id, v) ∈ knownUsers w ids :=
    (Table.mem_iff_get? hnodup).symm
  rw [hmem, knownUsers, List.mem_filterMap]
  constructor
  · rintro ⟨id', hid, hfound⟩
    obtain ⟨u, hu, heq⟩ := Option.map_eq_some_iff.mp hfound
    obtain ⟨rfl, rfl⟩ := Prod.mk.inj heq
    exact ⟨hid, u, hu, rfl⟩
  · rintro ⟨hid, u, hu, rfl⟩
    exact ⟨id, hid, by rw [hu, Option.map_some]⟩

theorem publicUsers_map_toObj (w : World) (hids : ids.Nodup) :
    publicUsers ((ids.filterMap fun id => w.users.find? fun u => u.id == id).map User.toObj) =
      .ok (knownUsers w ids) := by
  have hknown : ((ids.filterMap fun id => w.users.find? fun u => u.id == id).map
      User.toObj).filter (fun u => !(Obj.get u "id").isNull) =
        (ids.filterMap fun id => w.users.find? fun u => u.id == id).map User.toObj := by
    refine List.filter_eq_self.mpr fun o ho => ?_
    obtain ⟨u, -, rfl⟩ := List.mem_map.mp ho
    rfl
  have hshown : (ids.filterMap fun id => w.users.find? fun u => u.id == id).map
      (fun u => (u.id, Value.obj u.toObj)) = knownUsers w ids := by
    rw [List.map_filterMap, knownUsers]
    refine List.filterMap_congr fun id _ => ?_
    cases hfind : w.users.find? fun u => u.id == id with
    | none => rfl
    | some u =>
      have hid := List.find?_some hfind
      obtain rfl : u.id = id := beq_iff_eq.mp hid
      rfl
  have hmembers : ((knownUsers w ids).map (·.1)).Nodup :=
    (keys_knownUsers_sublist w ids).nodup hids
  have hpublic : ((ids.filterMap fun id => w.users.find? fun u => u.id == id).map User.toObj).mapM
      (fun u => do
        let shown ← Relation.publicUser u
        return (recordId shown, Value.obj shown)) = (.ok (knownUsers w ids) : Outcome _) := by
    rw [List.mapM_map, ← hshown]
    exact Outcome.mapM_eq_ok_map fun u _ => rfl
  rw [publicUsers]
  simp only [hknown, hpublic, Outcome.ok_bind]
  rw [Obj.ofMembers_eq_self hmembers]
  rfl

/-- All users are looked up at once. -/
theorem run_lookUpUsers (w : World) (hids : ids.Nodup) :
    (lookUpUsers Memory.stores ids).run w =
      (.ok (if w.usersDown then [] else knownUsers w ids), w) := by
  have hget : (Memory.stores.getUsers ids).run w =
      (if w.usersDown then .error (userLookupFailed .null)
        else .ok ((ids.filterMap fun id => w.users.find? fun u => u.id == id).map User.toObj),
      w) := by
    have hsame (id : String) (u : User) : (Value.str id).isText u.id = (u.id == id) :=
      Bool.beq_comm
    cases hdown : w.usersDown <;>
      simp [Memory.stores, Memory.getUsers, hdown, List.filterMap_map, hsame]
  rw [lookUpUsers]
  split
  · next hempty =>
    -- nobody is looked up, and nobody is known, whether or not a look-up would fail
    rw [List.isEmpty_iff.mp hempty]
    split <;> rfl
  · rw [Action.run_tryCatch, Action.run_bind, hget]
    cases w.usersDown with
    | true => rfl
    | false =>
      simp only [Bool.false_eq_true, if_false, Action.run_lift]
      rw [publicUsers_map_toObj w hids]

variable {σ : Type} {s s' : Stores σ} {state : σ}

/-- What is found out about some users depends on nothing but the answer to their look-up. -/
theorem run_lookUpUsers_congr (h : (s.getUsers ids).run state = (s'.getUsers ids).run state) :
    (lookUpUsers s ids).run state = (lookUpUsers s' ids).run state := by
  rw [lookUpUsers, lookUpUsers]
  split
  · rfl
  · rw [Action.run_tryCatch, Action.run_tryCatch, Action.run_bind, Action.run_bind, h]

/-- A look-up that fails leaves all users unknown. -/
theorem run_lookUpUsers_of_error {e : Fault}
    (h : (s.getUsers ids).run state = (.error e, state)) :
    (lookUpUsers s ids).run state = (.ok [], state) := by
  rw [lookUpUsers]
  split
  · rfl
  · rw [Action.run_tryCatch, Action.run_bind, h]
    rfl

/-! ### Entries with what is known of their users -/

/-- What entries are shown with: the settings of all user fields, and some users. -/
def resolution (fields : List PresentedField) (users : Obj) : Value :=
  .obj [("userFields", .obj (Relation.userSettings fields)), ("usersById", .obj users)]

/-- The users that some entries refer to, each once. -/
def referredIds (fields : List PresentedField) (entries : List Obj) : List String :=
  Relation.collectUsers ((Relation.userFieldsOf fields).map fun p => p.definition.key)
    (entries.map .obj)

theorem nodup_referredIds (fields : List PresentedField) (entries : List Obj) :
    (referredIds fields entries).Nodup :=
  (Relation.pairwise_collectUsers fields entries).imp fun hlt heq => by
    rw [heq] at hlt
    exact Nat.lt_irrefl _ hlt

/-- Entries of a type whose fields are read are shown with the settings of its user fields and with
whatever their users are found to be. -/
theorem run_resolve {typeId : String} {fields : List PresentedField} (hid : typeId ≠ "")
    (hfields : (s.fieldsOf typeId).run state = (.ok fields, state))
    (hsettings : Relation.userFields (fields.map fun p => .obj p.toObj) =
      .ok (Relation.userSettings fields)) {entries : List Obj} {users : Obj}
    (husers : (lookUpUsers s (referredIds fields entries)).run state = (.ok users, state)) :
    (resolve s typeId entries).run state =
      (.ok (entries.map fun entry => Obj.set entry "_resolved" (resolution fields users)),
        state) := by
  rw [resolve, userContext, if_neg hid, Action.run_bind, Action.run_bind, hfields]
  simp only [Action.run_bind, Action.run_lift, hsettings, Relation.keys_userSettings]
  rw [← referredIds, husers]
  rfl

end Service

open Service (resolve resolution referredIds)

/-- Entries of a type whose fields can be read are shown as they are, in their order, and all with
one and the same account of their users. It holds the settings of exactly the user fields, and the
users that are both referred to and known; if users cannot be looked up it holds none. What is
looked up is who is referred to, each once and in the order in which they are first mentioned, and
nothing depends on what a look-up of anyone else would answer. -/
theorem resolve_complete {w : World} (h : w.RegistryReached) {t : ContentType} (ht : t ∈ w.types)
    {fields : List PresentedField} (hfields : (Memory.getFields t.id).run w = (.ok fields, w))
    (entries : List Obj) :
    ∃ ids : List String, ∃ users : Obj,
      (resolve Memory.stores t.id entries).run w =
        (.ok (entries.map fun entry => Obj.set entry "_resolved" (resolution fields users)), w) ∧
      (∀ id, id ∈ ids ↔ ∃ entry ∈ entries, Relation.RefersTo fields entry id) ∧
      ids.Nodup ∧
      (ids.Pairwise fun a b => (Relation.mentions fields entries).idxOf a <
        (Relation.mentions fields entries).idxOf b) ∧
      (Obj.keys users).Nodup ∧
      (w.usersDown = true → users = []) ∧
      (w.usersDown = false → ∀ id v, Obj.get? users id = some v ↔
        id ∈ ids ∧ ∃ u, w.users.find? (fun u => u.id == id) = some u ∧ v = .obj u.toObj) ∧
      ∀ look : List String → Action World (List Obj),
        let others : Stores World := { Memory.stores with getUsers := look }
        ((look ids).run w = (Memory.stores.getUsers ids).run w →
          (resolve others t.id entries).run w = (resolve Memory.stores t.id entries).run w) ∧
        ∀ e, (look ids).run w = (.error e, w) → (resolve others t.id entries).run w =
          (.ok (entries.map fun entry => Obj.set entry "_resolved" (resolution fields [])), w) := by
  have hid : t.id ≠ "" := by
    obtain ⟨n, -, hn⟩ := h.sound.types.issued t ht
    intro hempty
    have hdash := dash_mem_identifier n
    rw [← hn, hempty] at hdash
    exact absurd hdash List.not_mem_nil
  have hlist := (Memory.run_getFields (h.sound.types.findType?_id ht)).symm.trans hfields
  rw [Prod.mk.injEq] at hlist
  have hstrict := h.sound.fields.fieldsOf t.id
  have hkeys := PresentedField.keys_of_listOf hstrict hlist.1
  have hsettings := Relation.userFields_eq hlist.1 (fun p hp => (hkeys.1 p hp).2) hkeys.2
  have hnodup := Service.nodup_referredIds fields entries
  have hrun := Service.run_lookUpUsers w hnodup
  have hshown := Service.run_resolve (s := Memory.stores) hid hfields hsettings hrun
  refine ⟨referredIds fields entries, _, hshown, fun id => Relation.mem_collectUsers, hnodup,
    Relation.pairwise_collectUsers fields entries, ?_, ?_, ?_, fun look => ⟨?_, ?_⟩⟩
  · split
    · exact List.nodup_nil
    · exact (Service.keys_knownUsers_sublist w _).nodup hnodup
  · intro hdown
    rw [if_pos hdown]
  · intro hup id v
    rw [hup, if_neg Bool.false_ne_true]
    exact Service.get?_knownUsers hnodup
  · intro hsame
    rw [hshown]
    refine Service.run_resolve hid hfields hsettings ?_
    rw [← hrun]
    exact Service.run_lookUpUsers_congr hsame
  · intro e herror
    exact Service.run_resolve hid hfields hsettings (Service.run_lookUpUsers_of_error herror)

/-! ### Albums with owners -/

/-- A request for the fields of albums: their owners. -/
def ownerFields : Value :=
  .list [.obj [("key", .str "owner"), ("label", .str "Owner"), ("type", .str "relation_user")]]

/-- A user who owns albums. -/
def albumOwner : User :=
  ⟨"00000000-0000-4000-8000-0000000000aa", .str "ada@example.org", .str "Ada", none, .str "active"⟩

/-- What is stored of the field of owners. -/
def ownerInput : FieldInput := ⟨"owner", "Owner", .relationUser, false, "", 0, []⟩

/-- What is recorded of the field of owners. -/
def ownerField : StoredField := ⟨albumWorld.origin.issue.latest, albumType.id, ownerInput⟩

/-- The world in which albums have owners, none of whom is known. -/
def strangerWorld : World :=
  (albumWorld.issue.putFields albumType.id [ownerField]).putType albumType

/-- The world in which albums have owners, one of whom is known. -/
def ownerWorld : World := { strangerWorld with users := [albumOwner] }

/-- Two albums. The first one has an owner who is known and one who is not, the second one only the
former. -/
def ownedAlbums : List Obj :=
  [[("data", .obj [("owner", .list [.str " 00000000-0000-4000-8000-0000000000aa ", .int 3,
      .str "00000000-0000-4000-8000-0000000000bb"])])],
    [("data", .obj [("owner", .str "00000000-0000-4000-8000-0000000000aa")])]]

theorem registryReached_ownerWorld : ownerWorld.RegistryReached := by
  have hinputs : FieldInput.listOf ownerFields = .ok [ownerInput] := by cbv
  have hnext : (RegistryCall.replaceFields "albums" ownerFields).next albumWorld =
      strangerWorld := by
    rw [RegistryCall.next_eq_iff registryReached_albumWorld.sound]
    exact .inl (.replaceFields rfl hinputs (.mk rfl))
  have hcall := registryReached_albumWorld.call (.replaceFields "albums" ownerFields)
  rw [hnext] at hcall
  exact hcall.elsewhere rfl rfl (Nat.le_refl _)

/-- Albums are shown with the one owner who is known, though another one is referred to. -/
theorem owned_albums_resolved : ∃ fields, ownerWorld.RegistryReached ∧
    albumType ∈ ownerWorld.types ∧
    (Memory.getFields albumType.id).run ownerWorld = (.ok fields, ownerWorld) ∧
    ∃ users, (resolve Memory.stores albumType.id ownedAlbums).run ownerWorld =
        (.ok (ownedAlbums.map fun entry =>
          Obj.set entry "_resolved" (resolution fields users)), ownerWorld) ∧
      Obj.get? users "00000000-0000-4000-8000-0000000000aa" = some (.obj albumOwner.toObj) ∧
      Obj.get? users "00000000-0000-4000-8000-0000000000bb" = none := by
  have hreached := registryReached_ownerWorld
  have hmem : albumType ∈ ownerWorld.types :=
    List.mem_map.mpr ⟨albumType, List.mem_singleton_self _, if_pos rfl⟩
  have hreadable : ownerWorld.FieldsReadable albumType.id := by
    have hfields : ownerWorld.fieldsOf albumType.id = [ownerField] := rfl
    rw [World.FieldsReadable, hfields, List.forall_mem_singleton]
    exact .plain (by decide) ⟨rfl, Value.hasText_null⟩
  obtain ⟨fields, hfields⟩ := (registry_reads_iff hreached hmem (.inl rfl)).2.1.mpr hreadable
  obtain ⟨ids, users, hrun, hids, -, -, -, -, hget, -⟩ :=
    resolve_complete hreached hmem hfields ownedAlbums
  have hup : ownerWorld.usersDown = false := rfl
  refine ⟨fields, hreached, hmem, hfields, users, hrun, ?_, ?_⟩
  · refine (hget hup _ _).mpr ⟨(hids _).mpr ⟨ownedAlbums[1], by simp [ownedAlbums], ?_⟩,
      albumOwner, rfl, rfl⟩
    have hlist := (Memory.run_getFields (hreached.sound.types.findType?_id hmem)).symm.trans hfields
    have hperm := PresentedField.perm_of_listOf (hreached.sound.fields.fieldsOf albumType.id)
      (congrArg Prod.fst hlist)
    have howner : ("owner", FieldKind.relationUser) ∈
        fields.map fun p => (p.definition.key, p.definition.kind) :=
      hperm.mem_iff.mpr (List.mem_singleton_self _)
    obtain ⟨p, hp, hsame⟩ := List.mem_map.mp howner
    obtain ⟨hkey, hkind⟩ := Prod.mk.inj hsame
    have hspells : (Identifier.ofText? (trim "00000000-0000-4000-8000-0000000000aa")).isSome := by
      decide +kernel
    refine ⟨p, hp, hkind, ?_⟩
    rw [hkey]
    exact .itself (.text hspells)
  · refine Option.eq_none_iff_forall_ne_some.mpr fun v hv => ?_
    obtain ⟨-, u, hu, -⟩ := (hget hup _ _).mp hv
    contradiction

end ContentEngine
