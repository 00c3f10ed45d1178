import ContentEngine.Database.Entries
import ContentEngine.Database.Registry
import ContentEngine.Database.Views
import ContentEngine.Proofs.Database.Transaction

/-!
# Writes are transactions

Types, entries and views are made and changed in one transaction each, however many statements and
nested transactions that takes: the replacement of a type's fields, the version that is kept of an
entry, the default that is taken from the other views. `IsWrite` says how such an action is
combined, and `Written` what becomes of it. If a statement of the transaction fails, nothing of it
is committed, and a breach of uniqueness in it is reported as a conflict
(`writes_are_transactions`).
-/

namespace ContentEngine

namespace Database

open Action (run_bind run_lift run_tryCatch)

/-! ### Programs that ask the database -/

section Programs

variable {caught inside : Bool}

theorem program_rows (name : String) (params : List Value) :
    Program caught true (rows name params) :=
  .bind (.execute name params) fun reply => by
    cases reply <;> exact .pure _

theorem program_row? (name : String) (params : List Value) :
    Program caught true (row? name params) :=
  .bind (program_rows name params) fun found => by
    cases found <;> exact .pure _

theorem program_findType? (idOrSlug : Value) : Program caught true (findType? idOrSlug) := by
  rw [findType?]
  split
  · refine .bind (.lift _) fun _ => .bind (program_row? _ _) fun byId => ?_
    cases byId with
    | some row => exact .lift _
    | none => exact .bind (program_row? _ _) fun _ => .lift _
  · rw [pure_bind]
    exact .bind (program_row? _ _) fun _ => .lift _

theorem program_requireType (idOrSlug : Value) : Program caught true (requireType idOrSlug) :=
  .bind (program_findType? idOrSlug) fun found => by
    cases found with
    | some t => exact .pure t
    | none => exact .throw _

theorem program_getFields (idOrSlug : Value) : Program caught inside (getFields idOrSlug) :=
  .bind (.transaction (.bind (program_requireType idOrSlug) fun _ => program_rows _ _)) fun _ =>
    .bind (.lift _) fun _ => .pure _

theorem program_getType? (idOrSlug : Value) (withFields : Bool) :
    Program caught inside (getType? idOrSlug withFields) := by
  refine .transaction (.bind (program_findType? idOrSlug) fun found => ?_)
  cases found with
  | none => exact .pure none
  | some t =>
    cases withFields with
    | true => exact .bind (program_getFields _) fun _ => .pure _
    | false => exact .pure _

theorem program_putField (typeId : Value) (ids : List (Value × String)) (now : String)
    (f : FieldInput) : Program caught true (putField typeId ids now f) := by
  have hrest (id : String) : Program caught true (do
      let config ← ((Value.obj f.config).storedText : Outcome String)
      let _ ← execute "content_fields.upsert"
        [.str id, typeId, .str f.key, .str f.label, .str f.kind.name, .bool f.required,
          .str f.helpText, .int f.orderIndex, .str config, .str now, .str now]
      pure () : Action Session Unit) :=
    .bind (.lift _) fun _ => .bind (.execute _ _) fun _ => .pure _
  rw [putField]
  split
  · exact .bind (.pure _) hrest
  · exact .bind .issueId hrest

theorem program_putFields (typeId : Value) (ids : List (Value × String)) (now : String)
    (inputs : List FieldInput) : Program caught true (putFields typeId ids now inputs) := by
  induction inputs with
  | nil => exact .pure ()
  | cons f rest ih => exact .bind (program_putField typeId ids now f) fun _ => ih

theorem program_replaceFields (idOrSlug raw : Value) :
    Program caught inside (replaceFields idOrSlug raw) :=
  .bind (.lift _) fun _ => .bind (.transaction <|
    .bind (program_requireType idOrSlug) fun _ => .bind (program_rows _ _) fun _ =>
    .bind (.lift _) fun _ => .bind (.execute _ _) fun _ => .bind .now fun _ =>
    .bind (program_putFields _ _ _ _) fun _ => .bind (.execute _ _) fun _ => .pure _) fun _ =>
    program_getFields _

theorem program_replaceRequested (typeId request : Value) :
    Program caught inside (replaceRequested typeId request) := by
  rw [replaceRequested]
  split
  · exact .bind (program_replaceFields _ _) fun _ => .pure _
  · exact .pure _

theorem program_checkSlug (t : Obj) (slug : String) : Program caught true (checkSlug t slug) := by
  rw [checkSlug]
  split
  · exact .pure ()
  · refine .bind (program_row? _ _) fun _ => .bind (.lift _) fun found => ?_
    cases found with
    | true => exact .throw _
    | false => exact .pure _

theorem program_settleDefault (typeId viewId : Value) (values : Obj) :
    Program caught true (settleDefault typeId viewId values) := by
  rw [settleDefault]
  split
  · exact .bind (.execute _ _) fun _ => .pure _
  · exact .pure _

end Programs

/-! ### Writes -/

variable {α β : Type} {s t : Session}

/-- Whether a fault is an issue that another record stands against. -/
def IsConflict (fault : Fault) : Prop :=
  ∃ i, fault = .issue i ∧ i.code = .conflict

/-- Whether one fault is reported for another: a conflict for a statement, or a commit, that breaks
a rule of uniqueness, and any other fault as it is. -/
def Reports (fault shown : Fault) : Prop :=
  match fault with
  | .statement true _ => IsConflict shown
  | fault => shown = fault

/-- What becomes of a write in a session in which the connection is not taken. Either the database
is not asked, or the statements of one transaction are executed. If that one is committed, none of
its statements has failed; otherwise it is rolled back, and what went wrong in it, or in its commit,
is reported. -/
inductive Written (s : Session) (outcome : Outcome α) (t : Session) : Prop
  | unasked : t.events = s.events → t.commits = s.commits → Written s outcome t
  | committed {o : Origin} {trace : List Statement} {u : Session} {after : List Event} :
      Executes (Session.take { s with origin := o }) trace u →
      (∀ st ∈ trace, ∀ unique text, st.reply ≠ .failure unique text) →
      s.commits.head?.join = none →
      t.events = s.events ++ .taken :: (log trace ++ .committed :: .returned :: after) →
      Written s outcome t
  | rolledBack {o : Origin} {trace : List Statement} {u : Session} {fault shown : Fault} :
      Executes (Session.take { s with origin := o }) trace u →
      FailuresSurface trace (.error fault : Outcome α) →
      t.commits = s.commits ∨ s.commits = some fault :: t.commits →
      t.events = s.events ++ .taken :: (log trace ++ [.rolledBack, .returned]) →
      outcome = .error shown → Reports fault shown → Written s outcome t

/-- Whether an action makes ready what it writes without asking the database, and writes it in one
transaction in which nothing is caught. A breach of uniqueness in it is reported as a conflict. -/
inductive IsWrite : {α : Type} → Action Session α → Prop
  | pure {α : Type} (a : α) : IsWrite (Pure.pure a : Action Session α)
  | prepare {α β : Type} (x : Outcome α) {f : α → Action Session β} : (∀ a, IsWrite (f a)) →
      IsWrite (liftM x >>= f)
  | issueId {α : Type} {f : String → Action Session α} : (∀ id, IsWrite (f id)) →
      IsWrite (issueId >>= f)
  | now {α : Type} {f : String → Action Session α} : (∀ time, IsWrite (f time)) →
      IsWrite (now >>= f)
  | store {α β : Type} {conflict : String → Fault} {body : Action Session α}
      {f : α → Action Session β} : Program false true body → (∀ text, IsConflict (conflict text)) →
      (∀ a, Program true false (f a)) → IsWrite (orConflict conflict (transaction body) >>= f)

/-- The fault that is reported for a fault within a transaction. -/
def reported (conflict : String → Fault) : Fault → Fault
  | .statement true text => conflict text
  | fault => fault

theorem reports_reported {conflict : String → Fault} (h : ∀ text, IsConflict (conflict text))
    (fault : Fault) : Reports fault (reported conflict fault) := by
  unfold Reports reported
  split <;> simp_all

theorem run_orConflict (conflict : String → Fault) (x : Action Session α) (s : Session) :
    (orConflict conflict x).run s = ((x.run s).1.mapError (reported conflict), (x.run s).2) := by
  rw [orConflict, run_tryCatch]
  rcases x.run s with ⟨fault | a, t⟩
  · cases fault with
    | statement unique text => cases unique <;> rfl
    | _ => rfl
  · rfl

/-- What has had a result has had no statement that failed. -/
theorem FailuresSurface.ne_failure {trace : List Statement} {a : α}
    (h : FailuresSurface trace (.ok a : Outcome α)) {st : Statement} (hst : st ∈ trace)
    (unique : Bool) (text : String) : st.reply ≠ .failure unique text := by
  intro hreply
  cases h st hst unique text hreply

theorem FailuresSurface.of_error {trace : List Statement} {fault : Fault}
    (h : FailuresSurface trace (.error fault : Outcome α)) :
    FailuresSurface trace (.error fault : Outcome β) := by
  intro st hst unique text hreply
  cases h st hst unique text hreply
  rfl

/-- A transaction in a write, with what follows it. -/
theorem written_store {conflict : String → Fault} {body : Action Session α}
    {f : α → Action Session β} (hbody : Program false true body)
    (hconflict : ∀ text, IsConflict (conflict text)) (hf : ∀ a, Program true false (f a))
    (o : Origin) (hs : s.active = false) :
    Written s ((orConflict conflict (transaction body) >>= f).run { s with origin := o }).1
      ((orConflict conflict (transaction body) >>= f).run { s with origin := o }).2 := by
  have hidle : { s with origin := o }.active = false := hs
  obtain ⟨trace, ending, ⟨hstatements, hends, hevents, hreturned⟩, hsurface⟩ :=
    exists_runsAsBlock hbody hidle
  replace hsurface := hsurface rfl
  obtain ⟨result, t, hrun⟩ : ∃ result t,
      (transaction body).run { s with origin := o } = (result, t) := ⟨_, _, rfl⟩
  rw [run_bind, run_orConflict, hrun]
  rw [hrun] at hends hevents hreturned
  replace hends : Ends _ s.commits result ending t.commits := hends
  generalize (body.run (Session.take { s with origin := o })).1 = outcome at hends hsurface
  generalize hgiven : s.commits = commits at hends
  generalize hleft : t.commits = left at hends
  cases hends with
  | committed hcommit =>
    obtain ⟨-, blocks, -, hafter⟩ := (hf _).leadsInBlocks rfl hreturned
    have hlog : t.events ++ blocks.flatten = s.events ++ .taken ::
        (log trace ++ .committed :: .returned :: blocks.flatten) := by
      rw [hevents]
      simp
    exact .committed hstatements (fun st hst => hsurface.ne_failure hst) (hgiven ▸ hcommit)
      (hafter.trans hlog)
  | @commitFailed a fault =>
    have hnone : FailuresSurface trace (.error fault : Outcome β) :=
      fun st hst unique text hreply => absurd hreply (hsurface.ne_failure hst unique text)
    exact .rolledBack hstatements hnone (.inr (hgiven.trans (congrArg _ hleft.symm))) hevents rfl
      (reports_reported hconflict _)
  | bodyFailed =>
    exact .rolledBack hstatements hsurface.of_error (.inl (hleft.trans hgiven.symm)) hevents rfl
      (reports_reported hconflict _)

theorem IsWrite.written {x : Action Session α} (h : IsWrite x) (hs : s.active = false)
    (o : Origin) : Written s (x.run { s with origin := o }).1 (x.run { s with origin := o }).2 := by
  induction h generalizing o with
  | pure a => exact .unasked rfl rfl
  | prepare x _ ih =>
    rw [run_bind, run_lift]
    cases x with
    | error e => exact .unasked rfl rfl
    | ok a => exact ih a o
  | issueId _ ih => exact ih _ _
  | now _ ih => exact ih _ _
  | store hbody hconflict hf => exact written_store hbody hconflict hf o hs

/-- A write is an operation: nothing but its transactions leaves a trace on the connection. -/
theorem IsWrite.program {x : Action Session α} (h : IsWrite x) : Program true false x := by
  induction h with
  | pure a => exact .pure a
  | prepare x _ ih => exact .bind (.lift x) ih
  | issueId _ ih => exact .bind .issueId ih
  | now _ ih => exact .bind .now ih
  | store hbody _ hf =>
    refine .bind (.tryCatch rfl (.transaction (hbody.of_caught true)) fun fault => ?_) hf
    split <;> exact .throw _

/-! ### The stores -/

theorem isConflict_typeSlugConflict (slug : Value) : IsConflict (typeSlugConflict slug) :=
  ⟨_, rfl, rfl⟩

theorem isConflict_entryConflict (values : EntryValues) (text : String) :
    IsConflict (entryConflict values text) :=
  ⟨_, rfl, rfl⟩

theorem isConflict_viewConflict (values : Obj) (text : String) :
    IsConflict (viewConflict values text) :=
  ⟨_, rfl, rfl⟩

theorem isWrite_createType (request : Value) : IsWrite (createType request) :=
  .prepare _ fun _ => .issueId fun _ => .now fun _ =>
    .store (.bind (.execute _ _) fun _ => program_replaceRequested _ _)
      (fun _ => isConflict_typeSlugConflict _) fun _ => program_getType? _ _

theorem isWrite_updateType (idOrSlug request : Value) : IsWrite (updateType idOrSlug request) :=
  .store (.bind (program_requireType _) fun _ => .bind (.lift _) fun _ =>
      .bind (program_checkSlug _ _) fun _ => .bind .now fun _ => .bind (.execute _ _) fun _ =>
      .bind (program_replaceRequested _ _) fun _ => .pure _)
    (fun _ => isConflict_typeSlugConflict _) fun _ => program_getType? _ _

theorem isWrite_createEntry (typeId : Value) (values : EntryValues) :
    IsWrite ( createEntry? typeId values) :=
  .issueId fun _ => .now fun _ => .store (.bind (.lift _) fun _ => program_row? _ _)
    (isConflict_entryConflict values) fun _ => .lift _

theorem isWrite_updateEntry (typeId id : Value) (values : EntryValues) :
    IsWrite ( updateEntry? typeId id values) :=
  .store (.bind .issueId fun _ => .bind .now fun _ => .bind (.execute _ _) fun _ =>
      .bind (.lift _) fun _ => program_row? _ _)
    (isConflict_entryConflict values) fun _ => .lift _

theorem isWrite_createView? (typeId : Value) (values : Obj) :
    IsWrite (createView? typeId values) :=
  .issueId fun _ => .now fun _ =>
    .store (.bind (.lift _) fun _ => .bind (program_row? _ _) fun _ =>
      .bind (program_settleDefault _ _ _) fun _ => .pure _)
    (isConflict_viewConflict values) fun _ => .lift _

theorem isWrite_updateView? (typeId viewId : Value) (values : Obj) :
    IsWrite (updateView? typeId viewId values) := by
  rw [updateView?]
  split
  · exact .pure none
  · refine .store (.bind (.lift _) fun _ => .bind .now fun _ => .bind (program_row? _ _) fun row =>
      ?_) (isConflict_viewConflict values) fun _ => .lift _
    split
    · exact .bind (program_settleDefault _ _ _) fun _ => .pure _
    · exact .pure _

/-- Whether an action, in whatever session it is run, is a write in one transaction, and nothing but
transactions leaves a trace on the connection. -/
def WritesAtOnce (x : Action Session α) : Prop :=
  ∀ s : Session, s.active = false →
    LeadsInBlocks s (x.run s).2 ∧ Written s (x.run s).1 (x.run s).2

theorem IsWrite.writesAtOnce {x : Action Session α} (h : IsWrite x) : WritesAtOnce x :=
  fun s hs => ⟨h.program.leadsInBlocks rfl hs, h.written hs s.origin⟩

/-- Whatever is combined of statements and nested transactions: a transaction of it that is nested
is a part of the one that is going on, and one that is not is committed or rolled back as a whole.
Each write of the stores is a transaction like that. -/
theorem writes_are_transactions :
    (∀ (caught : Bool) (α : Type) (body : Action Session α), Program caught true body →
      ∀ s : Session, (s.active = true → ∃ trace, RunsAsPart body s trace) ∧
        (s.active = false → ∃ trace ending, RunsAsBlock body s trace ending)) ∧
    (∀ request, WritesAtOnce (createType request)) ∧
    (∀ idOrSlug request, WritesAtOnce (updateType idOrSlug request)) ∧
    (∀ typeId values, WritesAtOnce ( createEntry? typeId values)) ∧
    (∀ typeId id values, WritesAtOnce ( updateEntry? typeId id values)) ∧
    (∀ typeId values, WritesAtOnce (createView? typeId values)) ∧
    ∀ typeId viewId values, WritesAtOnce (updateView? typeId viewId values) := by
  refine ⟨fun caught α body hbody s => ⟨fun hs => ?_, fun hs => ?_⟩,
    fun _ => (isWrite_createType _).writesAtOnce, fun _ _ => (isWrite_updateType _ _).writesAtOnce,
    fun _ _ => (isWrite_createEntry _ _).writesAtOnce,
    fun _ _ _ => (isWrite_updateEntry _ _ _).writesAtOnce,
    fun _ _ => (isWrite_createView? _ _).writesAtOnce,
    fun _ _ _ => (isWrite_updateView? _ _ _).writesAtOnce⟩
  · exact exists_runsAsPart hbody hs
  · obtain ⟨trace, ending, hblock, -⟩ := exists_runsAsBlock hbody hs
    exact ⟨trace, ending, hblock⟩

/-! ### An entry that cannot be stored under its new slug -/

/-- The values of an entry that is to be stored under the slug `taken`. -/
def takenValues : EntryValues :=
  ⟨.str "Taken", "taken", .str "draft", .obj []⟩

/-- A session in which the second statement breaks a rule of uniqueness. -/
def refusingSession : Session :=
  .start .start [.count 1, .failure true "duplicate key"]

/-- The version that has been kept of the entry is rolled back, and the conflict is reported. A
transaction that is nested in another one is not committed by itself. -/
theorem taken_slug_rolled_back :
    ((( updateEntry? (.str "type") (.str "entry") takenValues).run refusingSession).1 =
        .error (entryConflict takenValues "duplicate key") ∧
      LeadsInBlocks refusingSession
        (( updateEntry? (.str "type") (.str "entry") takenValues).run refusingSession).2 ∧
      Written refusingSession
        (( updateEntry? (.str "type") (.str "entry") takenValues).run refusingSession).1
        (( updateEntry? (.str "type") (.str "entry") takenValues).run refusingSession).2) ∧
    (∃ trace ending, RunsAsBlock (transaction (execute "touch" [])) refusingSession trace ending) ∧
    ∃ trace, RunsAsPart (transaction (execute "touch" [])) refusingSession.take trace := by
  obtain ⟨hblocks, -, -, -, hupdate, -⟩ := writes_are_transactions
  obtain ⟨hpart, -⟩ := hblocks false Reply _ (.transaction (.execute "touch" []))
    refusingSession.take
  obtain ⟨-, hblock⟩ := hblocks false Reply _ (.transaction (.execute "touch" [])) refusingSession
  refine ⟨⟨?_, hupdate (.str "type") (.str "entry") takenValues refusingSession rfl⟩, hblock rfl,
    hpart rfl⟩
  rfl

end Database

end ContentEngine
