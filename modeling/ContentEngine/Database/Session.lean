import ContentEngine.Store.Basic
import ContentEngine.Json.Stored
import ContentEngine.Value.Literal
/-!
# Sessions with a database

The engine does not see how a database works, only what it answers. A `Session` holds the answers
that are still to come, and a log of everything that happened on the connection.

Everything that is stored is stored within a `transaction`. A transaction takes the connection,
commits if its body ends well, rolls back if it does not or if the commit fails, and returns the
connection in any case. Transactions may be nested: an inner one is a part of the outer one and
leaves no trace of its own.
-/

namespace ContentEngine

namespace Database

/-- What a database answers to a statement: rows, the number of rows concerned, or that the
statement failed. -/
inductive Reply where
  | rows (rows : List Obj)
  | count (n : Int)
  | failure (unique : Bool) (text : String)

/-- What happens on a connection. Statements have names, and parameters. -/
inductive Event where
  | taken
  | executed (name : String) (params : List Value)
  | failed (name : String) (params : List Value)
  | committed
  | rolledBack
  | returned

/-- A session. `commits` holds the faults of the commits that are still to come; where none is given
a commit succeeds. The connection is `active` within a transaction. -/
structure Session where
  origin : Origin
  replies : List Reply
  commits : List (Option Fault)
  events : List Event
  active : Bool

namespace Session

/-- A session in which nothing has happened yet. -/
def start (origin : Origin) (replies : List Reply) : Session :=
  ⟨origin, replies, [], [], false⟩

/-- A session in which something has happened. -/
def add (s : Session) (e : Event) : Session :=
  { s with events := s.events ++ [e] }

/-- A session in which the connection has been taken. -/
def take (s : Session) : Session :=
  { s.add .taken with active := true }

/-- A session in which the connection has been returned. -/
def giveBack (s : Session) : Session :=
  { s.add .returned with active := false }

/-- A session after a commit, with what went wrong in it. -/
def commit (s : Session) : Option Fault × Session :=
  match s.commits with
  | some fault :: rest => (some fault, { s with commits := rest })
  | none :: rest => (none, { s.add .committed with commits := rest })
  | [] => (none, s.add .committed)

end Session

/-! ### Transactions -/

/-- How a transaction ends whose body had an outcome: a session in which the connection has been
returned. -/
def conclude {α : Type} (outcome : Outcome α) (s : Session) : Outcome α × Session :=
  match outcome with
  | .error fault => (.error fault, (s.add .rolledBack).giveBack)
  | .ok a =>
    match s.commit with
    | (none, s) => (.ok a, s.giveBack)
    | (some fault, s) => (.error fault, (s.add .rolledBack).giveBack)

/-- Runs an action as a transaction, or as a part of the one that is going on. -/
def transaction {α : Type} (body : Action Session α) : Action Session α :=
  ExceptT.mk fun s =>
    if s.active then body.run s
    else
      let (outcome, s) := body.run s.take
      conclude outcome s

/-! ### Statements -/

/-- The reply to the next statement. Where none is given the statement succeeds without effect. -/
def nextReply (s : Session) : Reply × Session :=
  match s.replies with
  | reply :: rest => (reply, { s with replies := rest })
  | [] => (.count 0, s)

/-- Executes a statement. -/
def execute (name : String) (params : List Value) : Action Session Reply :=
  ExceptT.mk fun s =>
    match nextReply s with
    | (.failure unique text, s) => (.error (.statement unique text), s.add (.failed name params))
    | (reply, s) => (.ok reply, s.add (.executed name params))

/-- The rows that a statement returns. -/
def rows (name : String) (params : List Value) : Action Session (List Obj) := do
  match ← execute name params with
  | .rows rows => return rows
  | _ => return []

/-- The first row that a statement returns. A row without columns counts as none. -/
def row? (name : String) (params : List Value) : Action Session (Option Obj) := do
  match ← rows name params with
  | first :: _ => return if first.isEmpty then none else some first
  | [] => return none

/-- The number of rows that a statement concerns. -/
def affected (name : String) (params : List Value) : Action Session Int := do
  match ← execute name params with
  | .rows rows => return rows.length
  | .count n => return n
  | .failure .. => return 0

/-- An action in which a statement that breaks a rule of uniqueness is reported as a conflict, with
what the database says. -/
def orConflict {α : Type} (conflict : String → Fault) (action : Action Session α) :
    Action Session α :=
  tryCatch action fun
    | .statement true text => throw (conflict text)
    | fault => throw fault

/-! ### Times and identifiers -/

/-- Issues an identifier. -/
def issueId : Action Session String := do
  modify fun s => { s with origin := s.origin.issue }
  return (← get).origin.latest

/-- The present time. -/
def now : Action Session String := do
  return (← get).origin.now

/-!
### Rows as records

A database has types of its own for identifiers, times and documents. In a record identifiers are
texts, times are stamps, and documents are what they denote.
-/

/-- The columns that hold identifiers. -/
def idColumns : List String := ["id", "content_type_id", "entry_id"]

/-- The columns that hold times. -/
def timeColumns : List String := ["created_at", "updated_at"]

/-- The stamp of a time. What is no time stays as it is. -/
def stampOf : Value → Value
  | .moment m => .str m.stamp
  | .day d => .str (d.stamp "00:00:00")
  | v => v

/-- A row in which the value under a column has been replaced, unless it is null. -/
def mapColumn (f : Value → Outcome Value) (row : Obj) (column : String) : Outcome Obj :=
  let v := Obj.get row column
  if v.isNull then .ok row else do return Obj.set row column (← f v)

/-- A row as a record, with documents in the given columns. -/
def record (documents : List String) (row : Obj) : Outcome Obj := do
  let row ← idColumns.foldlM (mapColumn fun v => return .str (← v.text)) row
  let row ← timeColumns.foldlM (mapColumn fun v => .ok (stampOf v)) row
  documents.foldlM (mapColumn Value.ofStored) row

/-- Rows as records. -/
def records (documents : List String) (rows : List Obj) : Outcome (List Obj) :=
  rows.mapM (record documents)

/-- A row as a record, if there is one. -/
def record? (documents : List String) (row : Option Obj) : Outcome (Option Obj) :=
  row.mapM (record documents)

end Database

end ContentEngine
