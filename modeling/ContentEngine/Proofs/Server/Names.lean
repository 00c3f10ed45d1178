import ContentEngine.Proofs.Memory.Names
import ContentEngine.Proofs.Registry.Slugs
import ContentEngine.Proofs.Server.Refusal
import ContentEngine.Proofs.Server.Views

/-!
# Entries by the slugs that they are given

An entry whose slug is left blank is given one, which is derived from its title. A request for the
entry by that slug is answered as the request by its identifier is, unless the slug is the word
under which the options of a type are shown, or reads as an identifier that is not that of the
entry: such a slug never leads to the entry (`entry_named_by_slug`).
-/

namespace ContentEngine

open Service (run_contentType recordId_toObj run_requireEntry)
open Display (UserContext)

variable {w w' : World} {t : ContentType} {e : Entry}

namespace Server

/-! ### The path of an entry -/

/-- The request to show the entry of a type that has a name, with everything else as in another
request. -/
def Request.forEntry (r : Request) (typeName name : String) : Request :=
  { r with
    method := "GET"
    path := "/api/content/" ++ typeName ++ "/" ++ name }

/-- What is asked for at the path of an entry. -/
def entryRoute (typeName name : String) : Route :=
  if name = "options" then .options typeName else .getEntry typeName name

section Path

variable {typeName name : String}

theorem toList_path_forEntry (r : Request) (typeName name : String) :
    (r.forEntry typeName name).path.toList =
      '/' :: ("api/content/".toList ++ (typeName.toList ++ '/' :: name.toList)) := by
  have hslash : "/".toList = ['/'] := by decide
  have hstart : "/api/content/".toList = '/' :: "api/content/".toList := by decide
  simp only [Request.forEntry, String.toList_append, hslash, hstart, List.append_assoc,
    List.cons_append, List.nil_append]

/-- The route of the path of an entry, of a type and with a name that are not blank and hold no
slash. -/
theorem findRoute_forEntry (r : Request) (htype : typeName ≠ "") (htype' : '/' ∉ typeName.toList)
    (hname : name ≠ "") (hname' : '/' ∉ name.toList) :
    findRoute (r.forEntry typeName name).method (r.forEntry typeName name).path =
      .route (entryRoute typeName name) := by
  have hparts : pathParts (r.forEntry typeName name).path.toList =
      ["api", "content", typeName, name] := by
    have hsplit : (splitAtChar '/' ("api/content/".toList ++
        (typeName.toList ++ '/' :: name.toList))).map String.ofList =
          ["api", "content", typeName, name] := by
      rw [splitAtChar_entryPath, splitAtChar_append htype', splitAtChar_of_not_mem hname']
      simp only [List.map_cons, List.map_nil, String.ofList_toList]
    have hblank : ["api", "content", typeName, name].contains "" = false := by
      simp [htype.symm, hname.symm]
    rw [toList_path_forEntry, pathParts, hsplit]
    simp only [hblank, Bool.false_eq_true, if_false]
  rw [findRoute, hparts]
  rfl

/-- Who may ask does not depend on the entry that is asked for. -/
theorem senderRole_forEntry (secret? : Option (List UInt8)) (now : Int) (r : Request)
    (typeName name other : String) :
    senderRole secret? now (r.forEntry typeName name) =
      senderRole secret? now (r.forEntry typeName other) := by
  -- the path is never the one that is open to everyone
  have hpublic : ∀ name, isPublic (r.forEntry typeName name) = false := by
    intro name
    have hmethod : ((r.forEntry typeName name).method == "OPTIONS") = false := rfl
    have hpath : (r.forEntry typeName name).path ≠ "/health" := by
      intro heq
      have hlist := congrArg String.toList heq
      have hhealth : "/health".toList = '/' :: 'h' :: "ealth".toList := by decide
      have hapi : "api/content/".toList = 'a' :: "pi/content/".toList := by decide
      rw [toList_path_forEntry, hhealth, hapi] at hlist
      simp at hlist
    rw [isPublic, hmethod, Bool.false_or, beq_eq_false_iff_ne]
    exact hpath
  cases secret? with
  | none => rfl
  | some secret => simp only [senderRole, hpublic]; rfl

end Path

/-- A request that is turned away is answered with the status of a failure. -/
theorem le_status_of_senderRole {secret? : Option (List UInt8)} {now : Int} {r : Request}
    {response : Response} (h : senderRole secret? now r = .error response) :
    400 ≤ response.status := by
  cases secret? with
  | none => cases h
  | some secret =>
    have hdenied (code message : String) : 400 ≤ (denied code message).status := by
      change 400 ≤ 401
      decide
    have hfault : 400 ≤ Response.serverFault.status := by
      change 400 ≤ 500
      decide
    rw [senderRole] at h
    split at h
    · cases h
    · rw [senderOf] at h
      split at h
      · cases h
        exact hdenied _ _
      · split at h
        · cases h
          exact hdenied _ _
        · cases h
          exact hfault
        · split at h
          · cases h
          · cases h
            exact hfault

/-! ### What a response shows -/

/-- The identifier of the entry that a response shows. -/
def Response.entryId (r : Response) : Value :=
  Obj.get (Obj.getObj r.body.members "entry") "id"

/-- The response that shows an entry with what is known of its users. -/
def entryShown (users : UserContext) (e : Entry) : Response :=
  .shown [("entry", .obj (Service.withUsers users e.toObj))]

theorem members_obj (o : Obj) : (Value.obj o).members = o := rfl

theorem get?_outwardMembers {key : String} (hkey : isHidden key = false)
    (members : List (String × Value)) :
    Obj.get? (outwardMembers members) key = (Obj.get? members key).map outward := by
  rw [outwardMembers_eq]
  induction members with
  | nil => rfl
  | cons member rest ih =>
    obtain ⟨k, v⟩ := member
    cases hk : isHidden k with
    | true =>
      have hne : key ≠ k := by
        rintro rfl
        rw [hkey] at hk
        cases hk
      rw [List.filter_cons_of_neg (by simp [hk]), ih, Obj.get?, Obj.get?, Table.get?_cons,
        if_neg hne]
    | false =>
      rw [List.filter_cons_of_pos (by simp [hk]), List.map_cons, Obj.get?, Table.get?_cons,
        Obj.get?, Table.get?_cons]
      split
      · rfl
      · exact ih

/-- What is sent of a response shows what has been asked for, without what stays inside. -/
theorem get?_body_sent {payload : Obj} (hsend : Sendable (Response.shown payload).body)
    {key : String} (hhidden : isHidden key = false) (hkey : key ∉ ["ok", "errors", "warnings"]) :
    Obj.get? (Response.shown payload).sent.body.members key =
      (Obj.get? payload key).map outward := by
  simp only [List.mem_cons, List.not_mem_nil, or_false, not_or] at hkey
  have hbody : outward (Response.shown payload).body =
      .obj (outwardMembers (("ok", .bool true) :: payload ++
        [("errors", .list []), ("warnings", .list [])])) := by
    rw [Response.shown, Response.success, outward]
  have hpayload : Obj.get? (("ok", .bool true) :: payload ++
      [("errors", .list []), ("warnings", .list [])]) key = Obj.get? payload key := by
    have hrest : List.lookup key [("errors", Value.list []), ("warnings", .list [])] = none := by
      change Table.get? [("errors", Value.list []), ("warnings", .list [])] key = none
      rw [Table.get?_cons, if_neg hkey.2.1, Table.get?_cons, if_neg hkey.2.2, Table.get?_nil]
    rw [List.cons_append, Obj.get?_cons, if_neg hkey.1, Obj.get?, Table.get?, List.lookup_append,
      hrest, Option.or_none]
    rfl
  rw [Response.sent_of_sendable hsend, hbody, members_obj, get?_outwardMembers hhidden, hpayload]

/-- An entry that is shown and sent is shown with its identifier. -/
theorem entryId_entryShown {users : UserContext}
    (hstatus : (entryShown users e).sent.status = 200) :
    (entryShown users e).sent.entryId = .str e.id := by
  by_cases hsend : Sendable (entryShown users e).body
  · have hid : Obj.get? (Service.withUsers users e.toObj) "id" = some (.str e.id) := by
      rw [Service.withUsers, Obj.get?_set, if_neg (by decide)]
      rfl
    have hentry : Obj.get? (entryShown users e).sent.body.members "entry" =
        some (.obj (outwardMembers (Service.withUsers users e.toObj))) := by
      rw [entryShown, get?_body_sent hsend (by decide) (by decide)]
      exact congrArg some (outward.eq_def _)
    rw [Response.entryId, Obj.getObj, Obj.get, Obj.get, hentry, Option.getD_some, members_obj,
      get?_outwardMembers (by decide), hid]
    exact outward.eq_def _
  · rw [Response.sent_of_not_sendable hsend] at hstatus
    cases hstatus

/-- A response without an entry shows none when it is sent. -/
theorem entryId_sent {payload : Obj} (h : Obj.get? payload "entry" = none) :
    (Response.shown payload).sent.entryId = .null := by
  by_cases hsend : Sendable (Response.shown payload).body
  · rw [Response.entryId, Obj.getObj, Obj.get, Obj.get,
      get?_body_sent hsend (by decide) (by decide), h]
    rfl
  · rw [Response.sent_of_not_sendable hsend]
    rfl

/-! ### Options are no entries -/

end Server

namespace Service

variable {σ : Type} {s : Stores σ} {a b : σ} {slug : String} {field : Value} {o : Obj}

/-- Whether an action gives objects only in which there is no entry. -/
def LacksEntry (x : Action σ Obj) : Prop :=
  ∀ a o b, x.run a = (.ok o, b) → Obj.get? o "entry" = none

theorem LacksEntry.pure {o : Obj} (h : Obj.get? o "entry" = none) :
    LacksEntry (Pure.pure o : Action σ Obj) := by
  intro a o' b hrun
  rw [Action.run_pure_eq_ok_iff] at hrun
  rw [← hrun.1, h]

theorem LacksEntry.throw (f : Fault) : LacksEntry (MonadExcept.throw f : Action σ Obj) := by
  intro a o b hrun
  rw [Action.run_throw] at hrun
  cases hrun

theorem LacksEntry.bind {α : Type} {x : Action σ α} {f : α → Action σ Obj}
    (hf : ∀ a, LacksEntry (f a)) : LacksEntry (x >>= f) := by
  intro a o b hrun
  obtain ⟨c, between, -, hrun⟩ := Action.run_bind_eq_ok_iff.mp hrun
  exact hf c between o b hrun

theorem lacksEntry_fieldOptions (s : Stores σ) (field : Value) :
    LacksEntry (fieldOptions s field) := by
  refine .bind fun source => ?_
  cases source with
  | some slug =>
    refine .bind fun found => ?_
    cases found <;> exact .bind fun _ => .bind fun _ => .pure rfl
  | none =>
    dsimp only
    split
    · refine .bind fun target => ?_
      cases target <;>
      · refine .bind fun found => ?_
        cases found with
        | none => exact .pure rfl
        | some t => exact .bind fun _ => .bind fun _ => .bind fun _ => .pure rfl
    · exact .pure rfl

/-- The options of a type or of a field are no entry. -/
theorem lacksEntry_options (s : Stores σ) (slug : String) (field : Value) :
    LacksEntry (options s slug field) := by
  refine .bind fun t => ?_
  split
  · exact .bind fun _ => .pure rfl
  · refine .bind fun key => .bind fun fields => ?_
    cases fields.find? fun f => f.definition.key == key with
    | none => exact .throw _
    | some f => exact lacksEntry_fieldOptions s _

end Service

/-! ### Slugs that are derived -/

namespace Service

theorem run_resolveOne_eq_ok {typeId : String} {entry shown : Obj}
    (h : (resolveOne Memory.stores typeId entry).run w = (.ok shown, w')) :
    ∃ users, shown = withUsers users entry := by
  rw [resolveOne, Action.run_bind_eq_ok_iff] at h
  obtain ⟨users, after, -, h⟩ := h
  exact ⟨users, (Action.run_pure_eq_ok_iff.mp h).1.symm⟩

/-- Whether what is shown is an entry whose values have been prepared from a request. -/
def IsPreparedFrom (mail : Format.MailReader) (request role : Value) (shown : Obj) : Prop :=
  ∃ (o : Obj) (stored : List StoredField) (views : List Obj) (entry : Entry) (users : UserContext),
    request.asObj? = some o ∧ Prepares mail stored views role o entry.values ∧
      shown = withUsers users entry.toObj

section Prepared

variable {mail : Format.MailReader} {typeName : String} {request role : Value} {o shown : Obj}

theorem isPreparedFrom_createEntryWith (hw : w.Sound)
    (h : (createEntryWith mail Memory.stores typeName request role).run w = (.ok shown, w')) :
    IsPreparedFrom mail request role shown := by
  obtain ⟨t, ht⟩ := exists_findType?_of_run h
  have hid := hw.types.findType?_id (World.mem_of_findType? ht)
  obtain ⟨o, values, ho, hprepares, -, -, hshown⟩ := (run_createEntryWith_eq_ok_iff ht hid).mp h
  obtain ⟨users, rfl⟩ := run_resolveOne_eq_ok hshown
  exact ⟨o, _, _, w.newEntry t.id values, users, ho, hprepares, rfl⟩

theorem isPreparedFrom_updateEntryWith (hw : w.Sound) {name : Value}
    (h : (updateEntryWith mail Memory.stores typeName name request role).run w =
      (.ok shown, w')) :
    IsPreparedFrom mail request role shown := by
  obtain ⟨t, ht⟩ := exists_findType?_of_run h
  have hid := hw.types.findType?_id (World.mem_of_findType? ht)
  obtain ⟨current, hname⟩ : ∃ current, Memory.entryNamed? w t.id name = some current := by
    rw [updateEntryWith, Action.run_bind, run_contentType, ht] at h
    exact exists_entryNamed?_of_run h
  obtain ⟨o, values, ho, hprepares, -, -, hshown⟩ :=
    (run_updateEntryWith_eq_ok_iff ht hid hname (find?_of_entryNamed? hw.entries hname)).mp h
  obtain ⟨users, rfl⟩ := run_resolveOne_eq_ok hshown
  exact ⟨o, _, _, w.changedEntry current values, users, ho, hprepares, rfl⟩

/-- An entry that is prepared from a request which leaves the slug blank is shown with a slug that
is derived from a text, and is not blank. -/
theorem IsPreparedFrom.exists_slug (h : IsPreparedFrom mail (.obj o) role shown)
    (hblank : (Obj.get o "slug").trimmedText = "") :
    ∃ title, Obj.get shown "slug" = .str (slugify title) ∧ slugify title ≠ "" := by
  obtain ⟨o', stored, views, entry, users, ho, hprepares, rfl⟩ := h
  obtain rfl : o = o' := Option.some.inj ho
  have hshown : Obj.get (withUsers users entry.toObj) "slug" = .str entry.values.slug := by
    rw [withUsers, Obj.get, Obj.get?_set, if_neg (by decide)]
    rfl
  rw [hshown]
  generalize entry.values = values at hprepares ⊢
  cases hprepares with
  | @intro _ _ title slug _ _ _ _ _ _ _ _ htitle =>
    obtain ⟨_, -, -, -, hslug, hne⟩ := titleAndSlug_eq_ok_iff.mp htitle
    rw [if_pos hblank] at hslug
    rw [hslug] at hne
    exact ⟨title, congrArg Value.str hslug, hne⟩

end Prepared

end Service

namespace Server

/-- Whether a request, from a sender in some role, leaves the slug blank and has an entry stored
under the slug that it has now. -/
inductive Request.GivesSlug (r : Request) (role : String) (w : World) (e : Entry) : Prop
  | intro {o shown : Obj} {w' : World} :
      r.json = .ok (.obj o) → (Obj.get o "slug").trimmedText = "" →
      r.StoresEntry role w shown w' → recordId shown = e.id →
      Obj.get shown "slug" = .str e.values.slug →
      r.GivesSlug role w e

/-- A slug that is given is derived from some text, and is not blank. -/
theorem Request.GivesSlug.exists_slug {r : Request} {role : String} (hw : w.Sound)
    (h : r.GivesSlug role w e) : ∃ title, e.values.slug = slugify title ∧ e.values.slug ≠ "" := by
  cases h with
  | @intro o shown w' hbody hblank hstores hid hslug =>
    have hprepared : Service.IsPreparedFrom Format.readEmail? (.obj o) (.str role) shown := by
      cases hstores with
      | new _ hjson hstore =>
        obtain rfl := Except.ok.inj (hjson.symm.trans hbody)
        exact Service.isPreparedFrom_createEntryWith hw hstore
      | changed _ hjson hstore =>
        obtain rfl := Except.ok.inj (hjson.symm.trans hbody)
        exact Service.isPreparedFrom_updateEntryWith hw hstore
    obtain ⟨title, hshown, hne⟩ := hprepared.exists_slug hblank
    have hsame : e.values.slug = slugify title := Value.str.inj (hslug.symm.trans hshown)
    exact ⟨title, hsame, hsame ▸ hne⟩

/-! ### Asking for an entry -/

/-- The answer to the request for the entry of a type that has a name, with everything else as in
another request. -/
def entryAnswer (secret? : Option (List UInt8)) (r : Request) (w : World) (t : ContentType)
    (name : String) : Response :=
  ((respond secret? (r.forEntry t.values.slug name)).run w).1

section Answer

variable {secret? : Option (List UInt8)} {r : Request} {role name : String}

/-- What is done with an entry of a type that a name finds is the same for every name. -/
theorem run_getEntry_of_named (ht : w.findType? t.values.slug = some t)
    (hname : Memory.entryNamed? w t.id (.str name) = some e) :
    (getEntry t.values.slug name).run w =
      (do let entry ← Service.resolveOne Memory.stores t.id e.toObj
          return .shown [("entry", .obj entry)] : Action World Response).run w := by
  simp only [getEntry, Service.getEntry, Action.run_bind, run_contentType, ht, Option.elim_some,
    recordId_toObj, run_requireEntry, hname]

/-- What is answered with success for a name shows the entry that the name finds. -/
theorem exists_named_of_status (ht : w.findType? t.values.slug = some t)
    (hstatus : (Response.ofOutcome ((getEntry t.values.slug name).run w).1).status = 200) :
    ∃ e users, Memory.entryNamed? w t.id (.str name) = some e ∧
      Response.ofOutcome ((getEntry t.values.slug name).run w).1 = (entryShown users e).sent := by
  -- a fault is not answered with success
  have hfault {f : Fault} : (Response.ofOutcome (.error f)).status ≠ 200 := by
    have hle := Response.le_status_ofOutcome_error f
    omega
  cases hname : Memory.entryNamed? w t.id (.str name) with
  | none =>
    simp only [getEntry, Service.getEntry, Action.run_bind, run_contentType, ht, Option.elim_some,
      recordId_toObj, run_requireEntry, hname, Option.elim_none] at hstatus
    exact absurd hstatus hfault
  | some e =>
    rw [run_getEntry_of_named ht hname, Action.run_bind] at hstatus ⊢
    rcases hrun : (Service.resolveOne Memory.stores t.id e.toObj).run w with ⟨f | shown, after⟩
    · rw [hrun] at hstatus
      exact absurd hstatus hfault
    · obtain ⟨users, rfl⟩ := Service.run_resolveOne_eq_ok hrun
      exact ⟨e, users, rfl, rfl⟩

/-- The answer to a request for an entry of a type, from a sender who is accepted. -/
theorem entryAnswer_of_sender (htype : t.values.slug ≠ "") (htype' : '/' ∉ t.values.slug.toList)
    (hne : name ≠ "") (hname : IsSlugText name)
    (hsender : senderRole secret? (secondsNow w) (r.forEntry t.values.slug name) = .ok role) :
    entryAnswer secret? r w t name = .ofOutcome
      ((perform role (r.forEntry t.values.slug name) (entryRoute t.values.slug name)).run w).1 := by
  have hroute := findRoute_forEntry r htype htype' hne (hname.not_mem (by decide) (by decide))
  rw [entryAnswer, run_respond_of_sender hsender, run_serve_of_route role w hroute]

/-- All requests for entries from a sender who is turned away are answered alike. -/
theorem entryAnswer_of_denied {response : Response}
    (hsender : senderRole secret? (secondsNow w) (r.forEntry t.values.slug name) = .error response)
    (other : String) : entryAnswer secret? r w t other = response := by
  rw [senderRole_forEntry _ _ r _ name other] at hsender
  rw [entryAnswer, run_respond_of_denied hsender]

end Answer

end Server

/-- Whether the slug of an entry leads to it: it is not the word under which the options of a type
are shown, and it reads as no identifier but that of the entry. -/
def Entry.AnswersToSlug (e : Entry) : Prop :=
  e.values.slug ≠ "options" ∧
    ((Identifier.ofText? e.values.slug).isSome = true → e.values.slug = e.id)

namespace Server

section Answer

variable {secret? : Option (List UInt8)} {r : Request} {role name : String}

/-- The slug of an entry finds the entry exactly if it reads as no identifier of something else. -/
theorem entryNamed?_slug_iff (hw : w.EntriesSound) (he : w.entries.find? t.id e.id = some e)
    (hslug : IsSlugText e.values.slug) :
    Memory.entryNamed? w t.id (.str e.values.slug) = some e ↔
      ((Identifier.ofText? e.values.slug).isSome = true → e.values.slug = e.id) := by
  cases hreads : (Identifier.ofText? e.values.slug).isSome with
  | false => simp [Memory.entryNamed?_slug hw.sound he hslug hreads]
  | true =>
    rw [Memory.entryNamed?_identifier hw.sound hslug hreads]
    constructor
    · intro hfind _
      exact (hw.sound.id_eq (EntryStore.find?_eq_some_iff.mp hfind).1).symm
    · intro hid
      rw [hid rfl, he]

/-- The options of a type show no entry. -/
theorem entryId_options (typeName : String) :
    (Response.ofOutcome ((options typeName r).run w).1).status = 200 →
      (Response.ofOutcome ((options typeName r).run w).1).entryId = .null := by
  intro hstatus
  rw [options, Action.run_bind] at hstatus ⊢
  rcases hrun : (Service.options Memory.stores typeName (r.parameter "field")).run w with
    ⟨f | o, after⟩
  · rw [hrun] at hstatus
    have hle := Response.le_status_ofOutcome_error f
    dsimp only at hstatus
    omega
  · exact entryId_sent (Service.lacksEntry_options _ _ _ _ _ _ hrun)

theorem slash_notMem_slug (hw : w.TypesSound) (ht : t ∈ w.types) : '/' ∉ t.values.slug.toList := by
  obtain ⟨text, htext⟩ := hw.slug_spelled t ht
  intro hslash
  rcases slugChar_of_mem_typeSlug (htext ▸ hslash) with hword | hword <;>
    exact absurd hword (by decide)

/-- Asked for by its identifier, an entry is looked for in its type. -/
theorem entryAnswer_id {role : String} (hw : w.Sound) (hissued : w.origin.issued < 16 ^ 12)
    (ht : t ∈ w.types) (htype : t.values.slug ≠ "") (he : w.entries.find? t.id e.id = some e)
    (hsender : senderRole secret? (secondsNow w) (r.forEntry t.values.slug e.id) = .ok role) :
    entryAnswer secret? r w t e.id = .ofOutcome ((getEntry t.values.slug e.id).run w).1 := by
  obtain ⟨hid, hreads, -⟩ := Memory.entryNamed?_id hw.entries hissued he
  have hne : e.id ≠ "" := fun heq => absurd (heq ▸ hreads) (by decide)
  have hoptions : e.id ≠ "options" := fun heq => absurd (heq ▸ hreads) (by decide)
  rw [entryAnswer_of_sender htype (slash_notMem_slug hw.types ht) hne hid hsender, entryRoute,
    if_neg hoptions]
  rfl

/-- In a world that is sound, an entry is asked for by its identifier and by its slug. -/
theorem entryAnswer_slug (hw : w.Sound) (hissued : w.origin.issued < 16 ^ 12) (ht : t ∈ w.types)
    (htype : t.values.slug ≠ "") (he : w.entries.find? t.id e.id = some e)
    (hslug : IsSlugText e.values.slug) (hne : e.values.slug ≠ "") :
    ((entryAnswer secret? r w t e.id).status = 200 →
      ∃ users, entryAnswer secret? r w t e.id = (entryShown users e).sent) ∧
    (e.AnswersToSlug → entryAnswer secret? r w t e.values.slug = entryAnswer secret? r w t e.id) ∧
    ((entryAnswer secret? r w t e.id).status = 200 →
      entryAnswer secret? r w t e.values.slug = entryAnswer secret? r w t e.id →
        e.AnswersToSlug) := by
  cases hsender : senderRole secret? (secondsNow w) (r.forEntry t.values.slug e.id) with
  | error response =>
    have hstatus : response.status ≠ 200 := by
      have hle := le_status_of_senderRole hsender
      omega
    simp only [entryAnswer_of_denied hsender, hstatus, false_imp_iff, implies_true, and_self]
  | ok role =>
    have hfind := hw.types.findType?_slug ht
    have hnamed := (Memory.entryNamed?_id hw.entries hissued he).2.2
    have hbyId := entryAnswer_id hw hissued ht htype he hsender
    rw [senderRole_forEntry _ _ r _ e.id e.values.slug] at hsender
    have hbySlug := entryAnswer_of_sender htype (slash_notMem_slug hw.types ht) hne hslug hsender
    have hshown : (entryAnswer secret? r w t e.id).status = 200 →
        ∃ users, entryAnswer secret? r w t e.id = (entryShown users e).sent := by
      rw [hbyId]
      intro hstatus
      obtain ⟨f, users, hf, hshown⟩ := exists_named_of_status hfind hstatus
      obtain rfl := Option.some.inj (hnamed.symm.trans hf)
      exact ⟨users, hshown⟩
    refine ⟨hshown, ?_, ?_⟩
    · rintro ⟨hoptions, hother⟩
      have hslug_named := (entryNamed?_slug_iff hw.entries he hslug).mpr hother
      rw [hbySlug, entryRoute, if_neg hoptions, hbyId, run_getEntry_of_named hfind hnamed,
        ← run_getEntry_of_named hfind hslug_named]
      rfl
    · -- the answer by slug would have to show this entry, which only the entry itself does
      intro hstatus hsame
      obtain ⟨users, hshown⟩ := hshown hstatus
      have hshows : (entryAnswer secret? r w t e.id).entryId = .str e.id := by
        rw [hshown] at hstatus ⊢
        exact entryId_entryShown hstatus
      rw [← hsame, hbySlug, entryRoute] at hstatus hshows
      by_cases hoptions : e.values.slug = "options"
      · rw [if_pos hoptions] at hstatus hshows
        rw [perform, entryId_options _ hstatus] at hshows
        cases hshows
      · rw [if_neg hoptions] at hstatus hshows
        obtain ⟨f, users, hf, hshown⟩ := exists_named_of_status hfind hstatus
        have hsame : f.id = e.id := by
          rw [perform, hshown] at hstatus hshows
          exact Value.str.inj ((entryId_entryShown hstatus).symm.trans hshows)
        -- the entry that the slug finds is the one with this identifier
        have hfound := Service.find?_of_entryNamed? hw.entries hf
        rw [hsame, he] at hfound
        obtain rfl := Option.some.inj hfound
        exact ⟨hoptions, (entryNamed?_slug_iff hw.entries he hslug).mp hf⟩

end Answer

end Server

/-- Whether a run of the server has given an entry the slug that it has. -/
def SlugGiven (steps : List ServerStep) (e : Entry) : Prop :=
  ∃ before secret? r after role, steps = before ++ .request secret? r :: after ∧
    Server.senderRole secret? (Server.secondsNow (runServer before)) r = .ok role ∧
    Server.Request.GivesSlug r role (runServer before) e

theorem SlugGiven.exists_slug {steps : List ServerStep} (h : SlugGiven steps e) :
    ∃ title, e.values.slug = slugify title ∧ e.values.slug ≠ "" := by
  obtain ⟨before, secret?, r, after, role, -, -, hgives⟩ := h
  exact hgives.exists_slug ((reaches_runServer before).sound World.sound_empty)

/-- An entry whose slug has been derived by the server, in any state that a run of the server leads
to, is asked for by its identifier and by its slug. As long as fewer than 16 ^ 12 identifiers have
been issued, so that each has the form of one, what is answered with success to the first request
shows the entry. The second is answered in the same way if the slug leads to the entry. If it does
not, being `options` or reading as an identifier that the entry does not have, the answers differ
whenever the first is a success. -/
theorem entry_named_by_slug {steps : List ServerStep}
    (hissued : (runServer steps).origin.issued < 16 ^ 12) (ht : t ∈ (runServer steps).types)
    (he : (runServer steps).entries.find? t.id e.id = some e) (hgiven : SlugGiven steps e)
    (secret? : Option (List UInt8)) (r : Server.Request) :
    ((Server.entryAnswer secret? r (runServer steps) t e.id).status = 200 →
      ∃ users, Server.entryAnswer secret? r (runServer steps) t e.id =
        (Server.entryShown users e).sent) ∧
    (e.AnswersToSlug → Server.entryAnswer secret? r (runServer steps) t e.values.slug =
      Server.entryAnswer secret? r (runServer steps) t e.id) ∧
    ((Server.entryAnswer secret? r (runServer steps) t e.id).status = 200 →
      Server.entryAnswer secret? r (runServer steps) t e.values.slug =
        Server.entryAnswer secret? r (runServer steps) t e.id → e.AnswersToSlug) := by
  have hreached := reaches_runServer steps
  have hnamed := hreached.keeps (I := fun w => ∀ t ∈ w.types, t.values.slug ≠ "") World.named_ofStep
    World.Regular.empty.named
  obtain ⟨title, hslug, hne⟩ := hgiven.exists_slug
  exact Server.entryAnswer_slug (hreached.sound World.sound_empty) hissued ht (hnamed t ht) he
    (hslug ▸ isSlugText_slugify title) hne

/-! ### Notes with a title -/

namespace Server

/-- A request to make the type of notes. -/
def makeNotes : Request :=
  ⟨"POST", "/api/content-types", [], [], "\x7b\"label_singular\":\"Note\"\x7d"⟩

/-- A request to make a note with a title and nothing else. -/
def addNote (title : String) : Request :=
  ⟨"POST", "/api/content/notes", [], [], "\x7b\"title\":\"" ++ title ++ "\"\x7d"⟩

/-- Whether a text is written in a request as it is, and gives a note a slug. -/
structure IsNoteTitle (title : String) : Prop where
  json : (addNote title).json = .ok (.obj [("title", .str title)])
  trimmed : trim title = title
  slug : slugify title ≠ ""

/-- What is stored of a note with a title and nothing else. -/
def noteValues (title : String) : EntryValues :=
  ⟨.str title, slugify title, .str "draft", .obj []⟩

/-- The note with a title and nothing else. -/
def note (title : String) : Entry :=
  noteWorld.newEntry noteType.id (noteValues title)

end Server

/-- A run of the server in which the type of notes is made, and a note with a title. -/
def noteSteps (title : String) : List ServerStep :=
  [.request none Server.makeNotes, .request none (Server.addNote title)]

namespace Server

theorem next_makeNotes : (ServerStep.request none makeNotes).next .empty = noteWorld := by
  have hjson : makeNotes.json = .ok (.obj [("label_singular", .str "Note")]) := by cbv
  have htype : typeRequest makeNotes = .ok (.obj [("label_singular", .str "Note")]) := by
    rw [typeRequest, hjson]
    rfl
  exact snd_run_respond_createType rfl (by decide) htype prepare_noteType rfl fun _ => rfl

theorem findRoute_addNote (title : String) :
    findRoute (addNote title).method (addNote title).path = .route (.createEntry "notes") := by
  have hroute : findRoute "POST" "/api/content/notes" = .route (.createEntry "notes") := by decide
  exact hroute

section Note

variable {title : String} (h : IsNoteTitle title)
include h

theorem prepares_note :
    Service.Prepares Format.readEmail? (noteWorld.fieldsOf noteType.id)
      (Service.viewsOf noteWorld noteType.id) (.str usualRole) [("title", .str title)]
      (noteValues title) := by
  have hviews : Service.viewsOf noteWorld noteType.id = [] := by
    rw [Service.viewsOf]
    exact congrArg (List.map StoredView.toObj) List.mergeSort_nil
  have hne : title ≠ "" := by
    rintro rfl
    exact h.slug (by decide)
  have hstored : noteWorld.fieldsOf noteType.id = [] := rfl
  have hgiven : Service.requestedData [("title", .str title)] = .ok (.obj []) := rfl
  have hfields : PresentedField.listOf [] = .ok [] := by
    simp [PresentedField.listOf, PresentedField.inOrder]
  rw [hviews, hstored]
  exact .intro hgiven rfl hfields rfl rfl
    (titleAndSlug_eq_ok_iff.mpr ⟨.str title, rfl, h.trimmed.symm, hne, rfl, h.slug⟩)

/-- A note is stored with the slug that its title gives it. -/
theorem exists_run_createNote : ∃ shown,
    (Service.createEntry Memory.stores "notes" (.obj [("title", .str title)])
      (.str usualRole)).run noteWorld =
        (.ok shown, noteWorld.withNew noteType.id (noteValues title)) ∧
      recordId shown = (note title).id ∧ Obj.get shown "slug" = .str (note title).values.slug := by
  have ht : noteWorld.findType? "notes" = some noteType := by decide
  have hid : noteWorld.findType? noteType.id = some noteType := by decide
  have hprepares := prepares_note h
  have hafter : (noteWorld.withNew noteType.id (noteValues title)).findType? noteType.id =
      some noteType := hid
  obtain ⟨shown, hshown⟩ :=
    (Service.exists_run_resolveOne_iff hafter (note title).toObj).mpr hprepares.isShowable
  obtain ⟨users, rfl⟩ := Service.run_resolveOne_eq_ok hshown
  refine ⟨_, (Service.run_createEntryWith_eq_ok_iff ht hid).mpr
    ⟨_, noteValues title, rfl, hprepares, rfl, rfl, hshown⟩, ?_, ?_⟩
  · exact (Service.of_run_resolveOne hshown).1
  · rw [Service.withUsers, Obj.get, Obj.get?_set, if_neg (by decide)]
    rfl

theorem next_addNote : (ServerStep.request none (addNote title)).next noteWorld =
    noteWorld.withNew noteType.id (noteValues title) := by
  obtain ⟨shown, hstore, -, -⟩ := exists_run_createNote h
  have hsender : senderRole none (secondsNow noteWorld) (addNote title) = .ok usualRole := rfl
  rw [ServerStep.next, run_respond_of_sender hsender,
    run_serve_of_route usualRole noteWorld (findRoute_addNote title), perform_createEntry,
    run_storeAndShow_of_stored _ _ h.json hstore]

end Note

end Server

section Note

variable {title : String} (h : Server.IsNoteTitle title)
include h

theorem runServer_noteSteps : runServer (noteSteps title) =
    Server.noteWorld.withNew Server.noteType.id (Server.noteValues title) := by
  rw [noteSteps, runServer, List.foldl_cons, List.foldl_cons, List.foldl_nil,
    Server.next_makeNotes, Server.next_addNote h]

/-- The note is there, and its slug has been given to it. -/
theorem note_added : Server.noteType ∈ (runServer (noteSteps title)).types ∧
    (runServer (noteSteps title)).entries.find? Server.noteType.id (Server.note title).id =
      some (Server.note title) ∧
    SlugGiven (noteSteps title) (Server.note title) := by
  rw [runServer_noteSteps h]
  refine ⟨List.mem_singleton_self _, World.find?_withNew _ _ _, ?_⟩
  obtain ⟨shown, hstore, hid, hslug⟩ := Server.exists_run_createNote h
  have hbefore : runServer [.request none Server.makeNotes] = Server.noteWorld :=
    Server.next_makeNotes
  refine ⟨[.request none Server.makeNotes], none, Server.addNote title, [], Server.usualRole, rfl,
    rfl, ?_⟩
  rw [hbefore]
  exact .intro h.json rfl (.new (Server.findRoute_addNote title) h.json hstore) hid hslug

end Note

theorem isNoteTitle_news : Server.IsNoteTitle "News" :=
  ⟨by cbv, by decide, by decide⟩

theorem isNoteTitle_options : Server.IsNoteTitle "Options" :=
  ⟨by cbv, by decide, by decide⟩

/-- A request for nothing in particular. -/
def bareRequest : Server.Request := ⟨"", "", [], [], ""⟩

/-- The answer to the request for a note by a name, after the note has been made. -/
def noteAnswer (title name : String) : Server.Response :=
  Server.entryAnswer none bareRequest (runServer (noteSteps title)) Server.noteType name

/-- The note `News` is found by the slug `news`, as by its identifier. -/
theorem news_found_by_slug : (runServer (noteSteps "News")).origin.issued < 16 ^ 12 ∧
    Server.noteType ∈ (runServer (noteSteps "News")).types ∧
    (runServer (noteSteps "News")).entries.find? Server.noteType.id (Server.note "News").id =
      some (Server.note "News") ∧
    SlugGiven (noteSteps "News") (Server.note "News") ∧ (Server.note "News").AnswersToSlug ∧
    noteAnswer "News" "news" = noteAnswer "News" (Server.note "News").id ∧
    ∃ users, noteAnswer "News" "news" = (Server.entryShown users (Server.note "News")).sent := by
  obtain ⟨ht, he, hgiven⟩ := note_added isNoteTitle_news
  have hissued : (runServer (noteSteps "News")).origin.issued < 16 ^ 12 := by
    rw [runServer_noteSteps isNoteTitle_news]
    decide
  have hstatus : (noteAnswer "News" (Server.note "News").id).status = 200 := by decide +kernel
  have hleads : (Server.note "News").AnswersToSlug := by
    refine ⟨by decide, fun hreads => ?_⟩
    exact absurd hreads (by decide +kernel)
  obtain ⟨hshown, hsame, -⟩ := entry_named_by_slug hissued ht he hgiven none bareRequest
  refine ⟨hissued, ht, he, hgiven, hleads, hsame hleads, ?_⟩
  obtain ⟨users, husers⟩ := hshown hstatus
  exact ⟨users, (hsame hleads).trans husers⟩

/-- The note `Options` is given the slug `options`, under which the options of the type are shown
instead of the note. -/
theorem options_hide_note : Server.noteType ∈ (runServer (noteSteps "Options")).types ∧
    (runServer (noteSteps "Options")).entries.find? Server.noteType.id (Server.note "Options").id =
      some (Server.note "Options") ∧
    SlugGiven (noteSteps "Options") (Server.note "Options") ∧
    (noteAnswer "Options" (Server.note "Options").id).status = 200 ∧
    noteAnswer "Options" (Server.note "Options").values.slug ≠
      noteAnswer "Options" (Server.note "Options").id := by
  obtain ⟨ht, he, hgiven⟩ := note_added isNoteTitle_options
  have hstatus : (noteAnswer "Options" (Server.note "Options").id).status = 200 := by
    decide +kernel
  refine ⟨ht, he, hgiven, hstatus, fun hsame => ?_⟩
  have hslug : Obj.has (noteAnswer "Options" (Server.note "Options").values.slug).body.members
      "entry" = false := by decide +kernel
  have hid : Obj.has (noteAnswer "Options" (Server.note "Options").id).body.members "entry" =
      true := by decide +kernel
  rw [hsame, hid] at hslug
  cases hslug

end ContentEngine
