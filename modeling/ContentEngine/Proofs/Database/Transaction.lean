import ContentEngine.Database.Session
import ContentEngine.Proofs.Action

/-!
# Transactions

`Program` says of what an action on a session is combined: of statements, which may stand within a
transaction only, of transactions, which may be nested, and of steps that do not ask the database.
`Executes` says which statements lead from one session to another. Within a transaction a program
does nothing to the connection but execute statements (`Program.exists_executes`), however many
transactions are nested in it. A transaction that is not nested takes the connection, executes the
statements of its body, commits or rolls back once, and returns the connection
(`exists_isBlock_transaction`); which of the two it does, and what it ends in, is told by `Ends`.
-/

namespace ContentEngine

namespace Database

open Action (run_bind run_lift run_tryCatch)

/-! ### Statements -/

/-- A statement with the reply that it has got. -/
structure Statement where
  name : String
  params : List Value
  reply : Reply

/-- The log of a statement. -/
def Statement.event (st : Statement) : Event :=
  match st.reply with
  | .failure .. => .failed st.name st.params
  | _ => .executed st.name st.params

/-- The log of some statements. -/
def log (trace : List Statement) : List Event :=
  trace.map Statement.event

/-- Whether some statements, one after the other, lead from one session to another. Identifiers may
be issued in between. -/
inductive Executes : Session → List Statement → Session → Prop
  | done (s : Session) : Executes s [] s
  | issue {s t : Session} {trace : List Statement} (o : Origin) : Executes s trace t →
      Executes s trace { t with origin := o }
  | statement {s t : Session} {trace : List Statement} (name : String) (params : List Value) :
      Executes s trace t → Executes s (trace ++ [⟨name, params, (nextReply t).1⟩])
        ((nextReply t).2.add (Statement.event ⟨name, params, (nextReply t).1⟩))

namespace Executes

variable {s t u : Session} {first second trace : List Statement}

theorem trans (hfirst : Executes s first t) (hsecond : Executes t second u) :
    Executes s (first ++ second) u := by
  induction hsecond with
  | done => rwa [List.append_nil]
  | issue o _ ih => exact .issue o ih
  | statement name params _ ih =>
    rw [← List.append_assoc]
    exact .statement name params ih

/-- A reply is taken off the replies, and nothing else is. -/
theorem nextReply_spec (s : Session) : (nextReply s).2.events = s.events ∧
    (nextReply s).2.commits = s.commits ∧ (nextReply s).2.active = s.active := by
  rw [nextReply]
  split <;> exact ⟨rfl, rfl, rfl⟩

/-- Statements are logged, and neither commit nor take or return the connection. -/
theorem spec (h : Executes s trace t) : t.events = s.events ++ log trace ∧
    t.commits = s.commits ∧ t.active = s.active := by
  induction h with
  | done => exact ⟨(List.append_nil _).symm, rfl, rfl⟩
  | issue o _ ih => exact ih
  | @statement t trace name params _ ih =>
    obtain ⟨hevents, hcommits, hactive⟩ := ih
    obtain ⟨hevents', hcommits', hactive'⟩ := nextReply_spec t
    refine ⟨?_, hcommits'.trans hcommits, hactive'.trans hactive⟩
    rw [Session.add, hevents', hevents, log, log, List.map_append, List.append_assoc]
    rfl

end Executes

/-- What a reply to a statement is for the one who has asked. -/
def Reply.outcome : Reply → Outcome Reply
  | .failure unique text => .error (.statement unique text)
  | reply => .ok reply

theorem run_execute (name : String) (params : List Value) (s : Session) :
    (execute name params).run s = ((nextReply s).1.outcome,
      (nextReply s).2.add (Statement.event ⟨name, params, (nextReply s).1⟩)) := by
  unfold execute
  rcases hreply : nextReply s with ⟨_ | _ | _, t⟩ <;>
    simp only [Action.run, ExceptT.run, StateT.run, ExceptT.mk, hreply] <;> rfl

/-! ### Programs -/

/-- Whether an action is combined of transactions and of steps that do not ask the database and, if
it stands `inside` a transaction, of statements. If nothing is `caught`, a fault of a part is the
fault of the whole. -/
inductive Program (caught : Bool) : Bool → {α : Type} → Action Session α → Prop
  | pure {inside : Bool} {α : Type} (a : α) : Program caught inside (Pure.pure a : Action Session α)
  | throw {inside : Bool} {α : Type} (e : Fault) :
      Program caught inside (MonadExcept.throw e : Action Session α)
  | lift {inside : Bool} {α : Type} (x : Outcome α) :
      Program caught inside (liftM x : Action Session α)
  | issueId {inside : Bool} : Program caught inside issueId
  | now {inside : Bool} : Program caught inside now
  | bind {inside : Bool} {α β : Type} {x : Action Session α} {f : α → Action Session β} :
      Program caught inside x → (∀ a, Program caught inside (f a)) → Program caught inside (x >>= f)
  | tryCatch {inside : Bool} {α : Type} {x : Action Session α}
      {handler : Fault → Action Session α} : caught = true → Program caught inside x →
      (∀ e, Program caught inside (handler e)) →
      Program caught inside (MonadExcept.tryCatch x handler)
  | execute (name : String) (params : List Value) : Program caught true (execute name params)
  | transaction {inside : Bool} {α : Type} {body : Action Session α} : Program caught true body →
      Program caught inside (transaction body)

theorem Program.of_caught {inside : Bool} {α : Type} {x : Action Session α}
    (h : Program false inside x) (caught : Bool) : Program caught inside x := by
  induction h with
  | pure a => exact .pure a
  | throw e => exact .throw e
  | lift x => exact .lift x
  | issueId => exact .issueId
  | now => exact .now
  | bind _ _ ihx ihf => exact .bind ihx ihf
  | tryCatch hcaught => contradiction
  | execute name params => exact .execute name params
  | transaction _ ih => exact .transaction ih

/-- A nested transaction is a part of the one that is going on: it runs on the same connection and
leaves no trace of its own. -/
theorem run_transaction_of_active {α : Type} (body : Action Session α) {s : Session}
    (hs : s.active = true) : (transaction body).run s = body.run s := by
  have hrun : (transaction body).run s = if s.active then body.run s
    else conclude (body.run s.take).1 (body.run s.take).2 := rfl
  rw [hrun, if_pos hs]

theorem run_transaction_of_not_active {α : Type} (body : Action Session α) {s : Session}
    (hs : s.active = false) :
    (transaction body).run s = conclude (body.run s.take).1 (body.run s.take).2 := by
  have hrun : (transaction body).run s = if s.active then body.run s
    else conclude (body.run s.take).1 (body.run s.take).2 := rfl
  rw [hrun, hs]
  rfl

/-- Whether each statement that has failed is what a computation has ended in. -/
def FailuresSurface {α : Type} (trace : List Statement) (outcome : Outcome α) : Prop :=
  ∀ st ∈ trace, ∀ unique text, st.reply = .failure unique text →
    outcome = .error (.statement unique text)

variable {caught inside : Bool} {α : Type} {x body : Action Session α} {s : Session}

/-- Within a transaction a program executes statements and does nothing else to the connection. If
nothing is caught, the first statement that fails is the last one. -/
theorem Program.exists_executes (h : Program caught inside x) (hs : s.active = true) :
    ∃ trace, Executes s trace (x.run s).2 ∧
      (caught = false → FailuresSurface trace (x.run s).1) := by
  induction h generalizing s with
  | pure | throw | now => exact ⟨[], .done s, fun _ => nofun⟩
  | lift x =>
    rw [run_lift]
    exact ⟨[], .done s, fun _ => nofun⟩
  | issueId => exact ⟨[], .issue _ (.done s), fun _ => nofun⟩
  | @bind _ _ _ x f _ _ ihx ihf =>
    obtain ⟨first, hfirst, hsurface⟩ := ihx hs
    rw [run_bind]
    rcases hrun : x.run s with ⟨e | a, t⟩
    · rw [hrun] at hfirst hsurface
      exact ⟨first, hfirst, fun hcaught st hst unique text hreply => by
        cases hsurface hcaught st hst unique text hreply
        rfl⟩
    · rw [hrun] at hfirst hsurface
      obtain ⟨second, hsecond, hsurface'⟩ := ihf a (hfirst.spec.2.2.trans hs)
      refine ⟨first ++ second, hfirst.trans hsecond, fun hcaught st hst unique text hreply => ?_⟩
      rcases List.mem_append.mp hst with hst | hst
      · -- the first part has had a result, so that no statement in it has failed
        cases hsurface hcaught st hst unique text hreply
      · exact hsurface' hcaught st hst unique text hreply
  | @tryCatch _ _ x handler hcaught _ _ ihx ihhandler =>
    obtain ⟨first, hfirst, -⟩ := ihx hs
    rw [run_tryCatch]
    rcases hrun : x.run s with ⟨e | a, t⟩
    · rw [hrun] at hfirst
      obtain ⟨second, hsecond, -⟩ := ihhandler e (hfirst.spec.2.2.trans hs)
      exact ⟨first ++ second, hfirst.trans hsecond, by simp [hcaught]⟩
    · rw [hrun] at hfirst
      exact ⟨first, hfirst, by simp [hcaught]⟩
  | execute name params =>
    rw [run_execute]
    refine ⟨_, .statement name params (.done s), fun _ st hst unique text hreply => ?_⟩
    rw [List.nil_append, List.mem_singleton] at hst
    subst hst
    rw [show (nextReply s).1 = .failure unique text from hreply]
    rfl
  | @transaction _ _ body _ ih =>
    rw [run_transaction_of_active body hs]
    exact ih hs

/-- What becomes of a transaction with a body that is run within another one: its statements are
executed on the connection that has been taken, which is neither committed, rolled back nor
returned. -/
structure RunsAsPart (body : Action Session α) (s : Session) (trace : List Statement) : Prop where
  run_eq : (transaction body).run s = body.run s
  statements : Executes s trace ((transaction body).run s).2
  events : ((transaction body).run s).2.events = s.events ++ log trace
  commits : ((transaction body).run s).2.commits = s.commits
  active : ((transaction body).run s).2.active = true

theorem exists_runsAsPart (h : Program caught true body) (hs : s.active = true) :
    ∃ trace, RunsAsPart body s trace := by
  obtain ⟨trace, htrace, -⟩ := h.exists_executes hs
  rw [← run_transaction_of_active body hs] at htrace
  obtain ⟨hevents, hcommits, hactive⟩ := htrace.spec
  exact ⟨trace, run_transaction_of_active body hs, htrace, hevents, hcommits, hactive.trans hs⟩

/-! ### Transactions that are not nested -/

/-- How a transaction ends, by what its body has ended in and by the faults of the commits that are
still to come: what it ends in itself, what is logged, and which commits are left. -/
inductive Ends : Outcome α → List (Option Fault) → Outcome α → Event → List (Option Fault) → Prop
  | committed {a : α} {commits : List (Option Fault)} : commits.head?.join = none →
      Ends (.ok a) commits (.ok a) .committed commits.tail
  | commitFailed {a : α} {fault : Fault} {rest : List (Option Fault)} :
      Ends (.ok a) (some fault :: rest) (.error fault) .rolledBack rest
  | bodyFailed {fault : Fault} {commits : List (Option Fault)} :
      Ends (.error fault) commits (.error fault) .rolledBack commits

/-- A body that ends well is committed once. If it does not, or if the commit fails, everything is
rolled back once, and the fault is raised again. -/
theorem ends_conclude (outcome : Outcome α) (s : Session) : ∃ ending,
    Ends outcome s.commits (conclude outcome s).1 ending (conclude outcome s).2.commits ∧
      (conclude outcome s).2.events = s.events ++ [ending, .returned] ∧
      (conclude outcome s).2.active = false := by
  cases outcome with
  | error fault =>
    refine ⟨.rolledBack, .bodyFailed, ?_, rfl⟩
    simp [conclude, Session.giveBack, Session.add]
  | ok a =>
    rw [conclude, Session.commit]
    match hcommits : s.commits with
    | [] =>
      refine ⟨.committed, ?_, ?_, rfl⟩
      · have hcommitted : Ends (.ok a) [] (.ok a) .committed [] := .committed rfl
        simpa [Session.giveBack, Session.add, hcommits] using hcommitted
      · simp [Session.giveBack, Session.add]
    | none :: rest =>
      refine ⟨.committed, .committed rfl, ?_, rfl⟩
      simp [Session.giveBack, Session.add]
    | some fault :: rest =>
      refine ⟨.rolledBack, .commitFailed, ?_, rfl⟩
      simp [Session.giveBack, Session.add]

/-- What becomes of a transaction with a body that is run in a session in which the connection is
not taken: some statements are executed, the transaction ends, and the connection is returned. -/
structure RunsAsBlock (body : Action Session α) (s : Session) (trace : List Statement)
    (ending : Event) : Prop where
  statements : Executes s.take trace (body.run s.take).2
  ends : Ends (body.run s.take).1 s.commits ((transaction body).run s).1 ending
    ((transaction body).run s).2.commits
  events : ((transaction body).run s).2.events =
    s.events ++ .taken :: (log trace ++ [ending, .returned])
  returned : ((transaction body).run s).2.active = false

theorem exists_runsAsBlock (h : Program caught true body) (hs : s.active = false) :
    ∃ trace ending, RunsAsBlock body s trace ending ∧
      (caught = false → FailuresSurface trace (body.run s.take).1) := by
  obtain ⟨trace, htrace, hsurface⟩ := h.exists_executes (s := s.take) rfl
  obtain ⟨ending, hends, hevents, hactive⟩ :=
    ends_conclude (body.run s.take).1 (body.run s.take).2
  obtain ⟨hlog, hcommits, -⟩ := htrace.spec
  rw [← run_transaction_of_not_active body hs] at hends hevents hactive
  refine ⟨trace, ending, ⟨htrace, ?_, ?_, hactive⟩, hsurface⟩
  · rwa [hcommits] at hends
  · rw [hevents, hlog]
    simp [Session.take, Session.add]

/-- Whether a log is that of one transaction: the connection is taken, statements are executed, the
transaction is committed or rolled back, and the connection is returned. -/
def IsBlock (events : List Event) : Prop :=
  ∃ trace ending, (ending = .committed ∨ ending = .rolledBack) ∧
    events = .taken :: (log trace ++ [ending, .returned])

theorem Ends.ending_eq {outcome result : Outcome α} {commits left : List (Option Fault)}
    {ending : Event} (h : Ends outcome commits result ending left) :
    ending = .committed ∨ ending = .rolledBack := by
  cases h with
  | committed => exact .inl rfl
  | commitFailed => exact .inr rfl
  | bodyFailed => exact .inr rfl

/-- Whether nothing but transactions, one after the other, leads from one session to another, in
which the connection is not taken. -/
structure LeadsInBlocks (s t : Session) : Prop where
  returned : t.active = false
  events : ∃ blocks : List (List Event), (∀ block ∈ blocks, IsBlock block) ∧
    t.events = s.events ++ blocks.flatten

namespace LeadsInBlocks

variable {s t u : Session}

theorem of_events_eq (hactive : t.active = false) (hevents : t.events = s.events) :
    LeadsInBlocks s t :=
  ⟨hactive, [], nofun, by rw [hevents, List.flatten_nil, List.append_nil]⟩

theorem trans (hfirst : LeadsInBlocks s t) (hsecond : LeadsInBlocks t u) : LeadsInBlocks s u := by
  obtain ⟨-, first, hfirst, hevents⟩ := hfirst
  obtain ⟨hactive, second, hsecond, hevents'⟩ := hsecond
  refine ⟨hactive, first ++ second, fun block hblock => ?_, ?_⟩
  · exact (List.mem_append.mp hblock).elim (hfirst block) (hsecond block)
  · rw [hevents', hevents, List.append_assoc, List.flatten_append]

end LeadsInBlocks

/-- A whole operation takes and returns the connection once for each of its transactions that is not
nested in another one, and has returned it in the end. -/
theorem Program.leadsInBlocks (h : Program caught inside x) (hinside : inside = false)
    (hs : s.active = false) : LeadsInBlocks s (x.run s).2 := by
  induction h generalizing s with
  | pure | throw | now | issueId => exact .of_events_eq hs rfl
  | lift x =>
    rw [run_lift]
    exact .of_events_eq hs rfl
  | @bind _ _ _ x f _ _ ihx ihf =>
    have hfirst := ihx hinside hs
    rw [run_bind]
    rcases hrun : x.run s with ⟨e | a, t⟩
    · rwa [hrun] at hfirst
    · rw [hrun] at hfirst
      exact hfirst.trans (ihf a hinside hfirst.returned)
  | @tryCatch _ _ x handler _ _ _ ihx ihhandler =>
    have hfirst := ihx hinside hs
    rw [run_tryCatch]
    rcases hrun : x.run s with ⟨e | a, t⟩
    · rw [hrun] at hfirst
      exact hfirst.trans (ihhandler e hinside hfirst.returned)
    · rwa [hrun] at hfirst
  | execute name params => contradiction
  | @transaction _ _ body hbody _ =>
    obtain ⟨trace, ending, hblock, -⟩ := exists_runsAsBlock hbody hs
    refine ⟨hblock.returned, [.taken :: (log trace ++ [ending, .returned])], ?_, ?_⟩
    · rintro block (_ | ⟨_, hmem⟩)
      · exact ⟨trace, ending, hblock.ends.ending_eq, rfl⟩
      · contradiction
    · rw [hblock.events, List.flatten_singleton]

end Database

end ContentEngine
