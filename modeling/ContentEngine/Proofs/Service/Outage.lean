import Mathlib
import ContentEngine.Proofs.Service.Users

/-!
# The service while users cannot be looked up

A call of the entry service is run twice, in a world where users can be looked up and in the same
world where they cannot. It ends alike (`ServiceCall.outage_changes_users_only`): with the same
fault or with entries that differ in what is known of users only, and with the same things stored.
A call that ends in a fault leaves everything as it was.

The engine only knows of users what it has been told in documents (`World.IsTold`). That matters in
one place: the text of an integer with too many digits cannot be written, and a user with such a
name would keep a list from being shown for as long as users can be looked up. No JSON text denotes
one.
-/

namespace ContentEngine

open Outcome (HasResult hasResult_ok)
open ContentEngine.Action (IgnoresUsers FailsCleanly)

variable {w w' : World}

/-! ### What is told of users -/

/-- Whether a world is reached and each of its users is one that has been stored as a document
describes it. All integers in the document can be written. -/
structure World.IsTold (w : World) : Prop where
  reached : World.empty.Reaches w
  users : ∀ u ∈ w.users, ∃ id request, (Value.obj request).HasText ∧
    User.ofRequest id request = .ok u

/-- A user who is stored as a document describes it has a label. -/
theorem User.labels_of_ofRequest {id : String} {request : Obj} {u : User}
    (htext : (Value.obj request).HasText) (h : User.ofRequest id request = .ok u) :
    u.name.HasText ∧ u.email.HasText := by
  simp only [User.ofRequest, Outcome.bind_eq_ok_iff, Outcome.pure_eq_ok_iff] at h
  obtain ⟨role, -, rfl⟩ := h
  exact ⟨htext.get "name", htext.get "email"⟩

theorem World.mem_users_putUser {user u : User} (h : u ∈ (w.putUser user).users) :
    u ∈ w.users ∨ u = user := by
  rw [World.putUser] at h
  split at h
  · obtain ⟨old, hold, rfl⟩ := List.mem_map.mp h
    split
    · exact .inr rfl
    · exact .inl hold
  · exact (List.mem_append.mp h).imp_right List.mem_singleton.mp

/-- Storing a user issues identifiers and changes the users. Each of them has been there before or is
described by the request. -/
theorem exists_of_putUser (request : Obj) (w : World) :
    ∃ issued users, ((Memory.putUser request).run w).2 =
        { w with origin := ⟨w.origin.now, w.origin.issued + issued⟩, users := users } ∧
      ∀ u ∈ users, u ∈ w.users ∨ ∃ id, User.ofRequest id request = .ok u := by
  have hstore (w : World) (id : String) :
      ∃ users, ((do
        let user ← (User.ofRequest id request : Outcome User)
        modify fun w => w.putUser user
        return user : Action World User).run w).2 = { w with users := users } ∧
      ∀ u ∈ users, u ∈ w.users ∨ ∃ id, User.ofRequest id request = .ok u := by
    cases huser : User.ofRequest id request with
    | error e => exact ⟨w.users, by simp, fun u hu => .inl hu⟩
    | ok user =>
      refine ⟨(w.putUser user).users, ?_, fun u hu => ?_⟩
      · simp only [Action.run_bind, Action.run_lift, Action.run_modify, Action.run_pure,
          World.putUser]
        split <;> rfl
      · rcases World.mem_users_putUser hu with hold | rfl
        · exact .inl hold
        · exact .inr ⟨id, huser⟩
  rw [Memory.putUser, Action.run_bind, Action.run_lift]
  cases User.requestedId? request with
  | error e => exact ⟨0, w.users, rfl, fun u hu => .inl hu⟩
  | ok requested =>
    cases requested with
    | some id =>
      obtain ⟨users, hrun, husers⟩ := hstore w id
      exact ⟨0, users, hrun, husers⟩
    | none =>
      obtain ⟨users, hrun, husers⟩ := hstore { w with origin := w.origin.issue } w.origin.issue.latest
      exact ⟨1, users, hrun, husers⟩

namespace World.IsTold

theorem empty : World.empty.IsTold := ⟨.refl _, nofun⟩

/-- As long as the users stay the same, nothing else matters. -/
theorem of_reaches (h : w.IsTold) (hreaches : w.Reaches w') (husers : w'.users = w.users) :
    w'.IsTold :=
  ⟨h.reached.trans hreaches, husers ▸ h.users⟩

/-- A user may be stored as any JSON text describes it. -/
theorem putUser (h : w.IsTold) {text : List Char} {request : Obj}
    (hread : readJson text = some (.obj request)) :
    ((Memory.putUser request).run w).2.IsTold := by
  obtain ⟨issued, users, hrun, husers⟩ := exists_of_putUser request w
  rw [hrun]
  refine ⟨h.reached.trans (World.Step.elsewhere _ issued users w.usersDown).reaches, fun u hu => ?_⟩
  rcases husers u hu with hold | ⟨id, hnew⟩
  · exact h.users u hold
  · exact ⟨id, request, Value.hasText_of_readJson hread, hnew⟩

/-- Every user has a label. -/
theorem labels (h : w.IsTold) {u : User} (hu : u ∈ w.users) :
    u.name.HasText ∧ u.email.HasText := by
  obtain ⟨id, request, htext, hrequest⟩ := h.users u hu
  exact User.labels_of_ofRequest htext hrequest

end World.IsTold

/-! ### Calls of the service -/

/-- A call of the entry service. -/
inductive ServiceCall where
  | create (typeName : String) (request role : Value)
  | update (typeName : String) (name request role : Value)
  | delete (typeName : String) (name : Value)
  | get (typeName : String) (name : Value)
  | list (typeName : String) (withDisplay : Bool)
  | versions (typeName : String) (name : Value)
  | options (typeName : String) (field : Value)

namespace ServiceCall

/-- What a call does over the stores in memory, where addresses go by a reader. It answers with the
objects that it shows. -/
def action (mail : Format.MailReader) : ServiceCall → Action World (List Obj)
  | create typeName request role => do
    return [← Service.createEntryWith mail Memory.stores typeName request role]
  | update typeName name request role => do
    return [← Service.updateEntryWith mail Memory.stores typeName name request role]
  | delete typeName name => do
    Service.deleteEntry Memory.stores typeName name
    return []
  | get typeName name => do return [← Service.getEntry Memory.stores typeName name]
  | list typeName withDisplay => Service.listEntries Memory.stores typeName withDisplay
  | versions typeName name => Service.listVersions Memory.stores typeName name
  | options typeName field => do return [← Service.options Memory.stores typeName field]

/-- Whether two answers to a call differ only as users being known or not makes them differ. -/
def Alike (w : World) : ServiceCall → List Obj → List Obj → Prop
  | create .. | update .. | get .. | list _ false => List.Forall₂ Service.SameButUsers
  | list typeName true =>
    List.Forall₂ (Service.SameButUsersAndTexts (w.IsUserKey typeName))
  | delete .. | versions .. | options .. => Eq

end ServiceCall

/-! ### Two runs of a call -/

theorem Action.IgnoresUsers.agree_bind {α β : Type} {R : β → β → Prop} {x : Action World α}
    {f : α → Action World β} (hx : IgnoresUsers x) (h : w.Outage w')
    (hf : ∀ a s s', s.Outage s' → Action.Agree World.Outage R (f a) (f a) s s') :
    Action.Agree World.Outage R (x >>= f) (x >>= f) w w' :=
  (hx.agree h).bind fun a _ s s' heq hs => heq ▸ hf a s s' hs

namespace Service

open Memory (readWith_ignoresUsers)

theorem ignoresUsers_contentType (typeName : String) :
    IgnoresUsers (contentType Memory.stores typeName) :=
  contentType_with IgnoresUsers.isCompositional readWith_ignoresUsers typeName

theorem ignoresUsers_requireEntry (typeId : String) (name : Value) :
    IgnoresUsers (requireEntry Memory.stores typeId name) :=
  requireEntry_with IgnoresUsers.isCompositional readWith_ignoresUsers typeId name

theorem ignoresUsers_prepareWith (mail : Format.MailReader) (typeId : String)
    (request role : Value) : IgnoresUsers (prepareWith mail Memory.stores typeId request role) :=
  prepareWith_with IgnoresUsers.isCompositional readWith_ignoresUsers mail typeId request role

theorem ignoresUsers_deleteEntry (typeName : String) (name : Value) :
    IgnoresUsers (deleteEntry Memory.stores typeName name) := by
  refine (ignoresUsers_contentType typeName).bind fun t =>
    (ignoresUsers_requireEntry _ name).bind fun current =>
    (Memory.ignoresUsers_deleteEntry _ _).bind fun found => ?_
  cases found with
  | false => exact IgnoresUsers.isCompositional.throw _
  | true => exact IgnoresUsers.isCompositional.pure _

theorem agree_createEntryWith (h : w.Outage w') (mail : Format.MailReader) (typeName : String)
    (request role : Value) :
    Action.Agree World.Outage SameButUsers
      (createEntryWith mail Memory.stores typeName request role)
      (createEntryWith mail Memory.stores typeName request role) w w' :=
  (ignoresUsers_contentType typeName).agree_bind h fun _ _ _ hs =>
    (ignoresUsers_prepareWith mail _ request role).agree_bind hs fun values _ _ hs =>
    (Memory.ignoresUsers_createEntry _ values).agree_bind hs fun entry _ _ hs =>
    agree_resolveOne hs _ entry

theorem agree_updateEntryWith (h : w.Outage w') (mail : Format.MailReader) (typeName : String)
    (name request role : Value) :
    Action.Agree World.Outage SameButUsers
      (updateEntryWith mail Memory.stores typeName name request role)
      (updateEntryWith mail Memory.stores typeName name request role) w w' := by
  refine (ignoresUsers_contentType typeName).agree_bind h fun t _ _ hs =>
    (ignoresUsers_requireEntry _ name).agree_bind hs fun current _ _ hs =>
    (ignoresUsers_prepareWith mail _ request role).agree_bind hs fun values _ _ hs =>
    (Memory.ignoresUsers_updateEntry _ _ values).agree_bind hs fun changed _ _ hs => ?_
  cases changed with
  | none => exact .throw _ hs
  | some entry => exact agree_resolveOne hs _ entry

theorem agree_getEntry (h : w.Outage w') (typeName : String) (name : Value) :
    Action.Agree World.Outage SameButUsers (getEntry Memory.stores typeName name)
      (getEntry Memory.stores typeName name) w w' :=
  (ignoresUsers_contentType typeName).agree_bind h fun _ _ _ hs =>
    (ignoresUsers_requireEntry _ name).agree_bind hs fun entry _ _ hs =>
    agree_resolveOne hs _ entry

end Service

namespace ServiceCall

/-- Every call ends alike in both worlds. -/
theorem agree_action (h : w.Outage w') (hw : w.TypesSound) (hfields : w.FieldsSound)
    (mail : Format.MailReader) (c : ServiceCall) :
    Action.Agree World.Outage (c.Alike w) (c.action mail) (c.action mail) w w' := by
  have hsingle {shown hidden : Obj} (hsame : Service.SameButUsers shown hidden) :
      List.Forall₂ Service.SameButUsers [shown] [hidden] := .cons hsame .nil
  cases c with
  | create typeName request role =>
    exact (Service.agree_createEntryWith h mail typeName request role).bind
      fun _ _ _ _ hsame hs => .pure (hsingle hsame) hs
  | update typeName name request role =>
    exact (Service.agree_updateEntryWith h mail typeName name request role).bind
      fun _ _ _ _ hsame hs => .pure (hsingle hsame) hs
  | delete typeName name =>
    exact (Service.ignoresUsers_deleteEntry typeName name).agree_bind h
      fun _ _ _ hs => .pure rfl hs
  | get typeName name =>
    exact (Service.agree_getEntry h typeName name).bind
      fun _ _ _ _ hsame hs => .pure (hsingle hsame) hs
  | list typeName withDisplay =>
    cases withDisplay with
    | false => exact Service.agree_listEntries h hw hfields typeName false
    | true => exact Service.agree_listEntries h hw hfields typeName true
  | versions typeName name =>
    exact (Service.listVersions_with IgnoresUsers.isCompositional Memory.readWith_ignoresUsers
      typeName name).agree h
  | options typeName field =>
    exact (Service.options_with IgnoresUsers.isCompositional Memory.readWith_ignoresUsers
      typeName field).agree_bind h fun _ _ _ hs => .pure rfl hs

/-- A call that ends in a fault leaves the world as it was. -/
theorem failsCleanly_action (hw : w.Sound) (mail : Format.MailReader) (c : ServiceCall) :
    FailsCleanly (c.action mail) w := by
  have hreading := Memory.isReading_stores
  cases c with
  | create typeName request role =>
    exact (Service.failsCleanly_createEntryWith hw mail typeName request role).bind_of_hasResult
      fun _ _ _ => hasResult_ok _
  | update typeName name request role =>
    exact (Service.failsCleanly_updateEntryWith hw mail typeName name request
      role).bind_of_hasResult fun _ _ _ => hasResult_ok _
  | delete typeName name =>
    exact (Service.failsCleanly_deleteEntry hw typeName name).bind_of_hasResult
      fun _ _ _ => hasResult_ok _
  | get typeName name =>
    exact .of_isReadOnly ((Service.isReadOnly_getEntry hreading typeName name).bind
      fun _ => .pure _) w
  | list typeName withDisplay =>
    exact .of_isReadOnly (Service.isReadOnly_listEntries hreading typeName withDisplay) w
  | versions typeName name =>
    exact .of_isReadOnly (Service.isReadOnly_listVersions hreading typeName name) w
  | options typeName field =>
    exact .of_isReadOnly ((Service.isReadOnly_options hreading typeName field).bind
      fun _ => .pure _) w

/-- An outage of users changes nothing about a call but what is known of users: in a world that is
told of users, a call ends in one fault or with answers that are alike, whether users can be looked
up or not, and the same is stored. A call that ends in a fault leaves the world as it was. -/
theorem outage_changes_users_only (hw : w.IsTold) (mail : Format.MailReader) (c : ServiceCall) :
    Outcome.Agree (c.Alike w) ((c.action mail).run { w with usersDown := false }).1
        ((c.action mail).run { w with usersDown := true }).1 ∧
      ((c.action mail).run { w with usersDown := true }).2 =
        { ((c.action mail).run { w with usersDown := false }).2 with usersDown := true } ∧
      ∀ e, ((c.action mail).run w).1 = .error e → ((c.action mail).run w).2 = w := by
  -- whether users can be looked up in `w` itself does not matter
  have hup : World.empty.Reaches { w with usersDown := false } :=
    hw.reached.trans (World.Step.elsewhere w.origin.now 0 w.users false).reaches
  have houtage : World.Outage { w with usersDown := false } { w with usersDown := true } :=
    ⟨rfl, rfl, fun _ => hw.labels⟩
  obtain ⟨hagree, hafter⟩ :=
    agree_action houtage (hup.sound World.sound_empty).types hup.fieldsSound mail c
  exact ⟨hagree, hafter.down, failsCleanly_action (hw.reached.sound World.sound_empty) mail c⟩

/-! ### A task and its owner -/

/-- The type of tasks. -/
def taskType : ContentType := World.empty.newType ⟨"tasks", .content, "Task", "Tasks", "", ""⟩

/-- The world with the type of tasks, before it gets its fields. -/
def typeWorld : World := World.empty.issue.addType taskType

/-- The one field of a task, for the user who owns it. -/
def ownerField : StoredField :=
  ⟨typeWorld.origin.issue.latest, taskType.id, ⟨"owner", "Owner", .relationUser, false, "", 0, []⟩⟩

/-- The world with the type of tasks and its field. -/
def fieldWorld : World :=
  (typeWorld.issue.putFields taskType.id [ownerField]).putType
    { taskType with updatedAt := typeWorld.origin.now }

/-- What is told of a user. -/
def ada : Obj := [("id", .str "00000000-0000-4000-8000-00000000000a"), ("name", .str "Ada")]

/-- The world with the user. -/
def userWorld : World :=
  { fieldWorld with
    users := [⟨"00000000-0000-4000-8000-00000000000a", .null, .str "Ada", none, .str "active"⟩] }

/-- A task of the user. -/
def task : EntryValues :=
  ⟨.str "T", "t", .str "draft", .obj [("owner", .str "00000000-0000-4000-8000-00000000000a")]⟩

/-- The world with the task. -/
def taskWorld : World := userWorld.withNew taskType.id task

theorem step_typeWorld : World.empty.Step typeWorld := by
  have hvalues : ContentType.prepare (.obj [("label_singular", .str "Task")]) [] =
      .ok taskType.values := Outcome.eq_ok_of_toOption (by decide +kernel)
  exact .addType hvalues rfl

theorem step_fieldWorld : typeWorld.Step fieldWorld := by
  have hinputs : FieldInput.listOf (.list [.obj [("key", .str "owner"), ("label", .str "Owner"),
      ("type", .str "relation_user")]]) = .ok [ownerField.input] := rfl
  have hrecord : (Memory.recordFields taskType.id (typeWorld.fieldsOf taskType.id)
      [ownerField.input]).run typeWorld = (.ok [ownerField], typeWorld.issue) := rfl
  exact .replaceFields (List.mem_singleton_self _) hinputs hrecord

theorem reaches_fieldWorld : World.empty.Reaches fieldWorld :=
  step_typeWorld.reaches.trans step_fieldWorld.reaches

theorem isTold_taskWorld : taskWorld.IsTold := by
  have hread : readJson ("\x7b\"id\":\"00000000-0000-4000-8000-00000000000a\"," ++
      "\"name\":\"Ada\"\x7d").toList = some (.obj ada) := by cbv
  have hfields : fieldWorld.IsTold := World.IsTold.empty.of_reaches reaches_fieldWorld rfl
  have huser : ((Memory.putUser ada).run fieldWorld).2 = userWorld := rfl
  have hnext : (EntryCall.create taskType.id task).next userWorld = taskWorld := rfl
  have htold : userWorld.IsTold := huser ▸ hfields.putUser hread
  refine htold.of_reaches (hnext ▸ (World.Step.entry _ fun typeId values heq => ?_).reaches) rfl
  cases heq
  exact ⟨taskType, List.mem_singleton_self _, rfl⟩

/-- The field of a task as it is read. -/
def shownOwner : PresentedField :=
  ⟨⟨.str ownerField.id, "owner", "Owner", .relationUser, false, "", 0,
    [("multiple", .bool false), ("display", .str "name_email"), ("roleFilter", .str ""),
      ("onlyActive", .bool true)]⟩, .str taskType.id⟩

theorem listOf_ownerField : PresentedField.listOf [ownerField.toObj] = .ok [shownOwner] := by
  have hread : FieldDef.ofValue? (.obj ownerField.toObj) 0 = .ok (some shownOwner.definition) := by
    rw [FieldDef.ofValue?]
    rfl
  have horder : (Obj.get ownerField.toObj "order_index").toInteger = .ok (some 0) := rfl
  have hfield : PresentedField.ofStored? ownerField.toObj = .ok (some shownOwner) := by
    rw [PresentedField.ofStored?, horder, Outcome.ok_bind, Option.getD_some, hread]
    rfl
  rw [PresentedField.listOf, List.mapM_cons, hfield]
  simp [PresentedField.inOrder]

/-- A task is shown while users can be looked up and while they cannot. -/
theorem task_shown_under_outage :
    taskWorld.IsTold ∧ ∃ shown hidden,
      ((get "tasks" (.str "t")).action Format.readEmail?).run taskWorld =
        (.ok [shown], taskWorld) ∧
      ((get "tasks" (.str "t")).action Format.readEmail?).run { taskWorld with usersDown := true } =
        (.ok [hidden], { taskWorld with usersDown := true }) ∧
      Service.SameButUsers shown hidden := by
  have hfind : taskWorld.findType? "tasks" = some taskType := by decide
  have hid : taskWorld.findType? taskType.id = some taskType := by decide
  have hname : Memory.entryNamed? taskWorld taskType.id (.str "t") =
      some (userWorld.newEntry taskType.id task) := rfl
  obtain ⟨shown, hshown⟩ := (Service.exists_run_resolveOne_iff hid
    (userWorld.newEntry taskType.id task).toObj).mpr (Service.isShowable_of_listOf listOf_ownerField)
  have hup : ((get "tasks" (.str "t")).action Format.readEmail?).run taskWorld =
      (.ok [shown], taskWorld) := by
    simp only [action, Service.getEntry, Action.run_bind, Service.run_contentType, hfind,
      Option.elim_some, Service.recordId_toObj, Service.run_requireEntry, hname, hshown,
      Action.run_pure]
  have hsame : { taskWorld with usersDown := false } = taskWorld := rfl
  obtain ⟨hagree, hafter, -⟩ := outage_changes_users_only isTold_taskWorld Format.readEmail?
    (get "tasks" (.str "t"))
  rw [hsame, hup] at hagree hafter
  rcases hdown : ((get "tasks" (.str "t")).action Format.readEmail?).run
    { taskWorld with usersDown := true } with ⟨answer, after⟩
  rw [hdown] at hagree hafter
  cases hagree with
  | result halike =>
    obtain ⟨hidden, _, hfirst, hrest, rfl⟩ := List.forall₂_cons_left_iff.mp halike
    obtain rfl := List.forall₂_nil_left_iff.mp hrest
    exact ⟨isTold_taskWorld, shown, hidden, hup, Prod.ext rfl hafter, hfirst⟩

end ServiceCall

end ContentEngine
