import DbConsole.Query.Stream
import DbConsole.View.Request
import DbConsole.View.Result

namespace DbConsole

structure Connection where
  database : DatabasePath
deriving DecidableEq, Inhabited

structure Run where
  connection : Connection
  batchSize : Nat
  /-- Whether the query has begun and will never produce anything more. -/
  stalled : Bool
deriving DecidableEq, Inhabited

/-- A session owns one connection from its creation until its query has ended or it is closed: first
in its `slot`, and then, once started, with its `run`. -/
structure Session where
  id : String
  relation : Relation
  query : Select
  state : SessionState
  slot : Option Connection
  run : Option Run
  cancelled : Bool
  /-- The first row that a fetch has not handed out. -/
  cursor : Nat
deriving Inhabited

namespace Session

def new (id : String) (relation : Relation) (query : Select) (connection : Connection) : Session :=
  { id, relation, query, state := .initialized, slot := some connection, run := none
    cancelled := false, cursor := 0 }

def connections (s : Session) : Nat :=
  (if s.slot.isSome then 1 else 0) + (if s.run.isSome then 1 else 0)

def start (s : Session) (batchSize : Nat) : Except ViewError (String × Session) :=
  match s.state, s.cancelled, s.slot with
  | .initialized, false, some connection =>
    .ok (s.query.sql,
      { s with state := .running, slot := none, run := some ⟨connection, batchSize, false⟩ })
  | .initialized, _, _ => .error (.unknownSession s.id)
  | state, _, _ => .error (.invalidState s.id state.phase .initialized)

def resultState? (s : Session) : Outcome → Option SessionState
  | .completed rows =>
    some (.completed (.success rows (ResultColumn.ofRelation s.relation) s.relation.primaryKey))
  | .failed e => some (.failed (.failure e.message))
  | .aborted payload => some (.failed (.failure ("query execution aborted: " ++ payload.report)))
  | .stalled => none

def settle (s : Session) (events : Connection → Nat → List StreamEvent) : Session :=
  match s.run with
  | some ⟨connection, batchSize, false⟩ =>
    match s.resultState? (.ofEvents (events connection batchSize)) with
    | some state => { s with state, run := none }
    | none => { s with run := some ⟨connection, batchSize, true⟩ }
  | _ => s

/-- Looks at the session. The first look at a result covers one page, a later one covers also what
fetches have handed out. -/
def poll (s : Session) (size : Nat) : Progress × Session :=
  match s.state with
  | .completed summary =>
    let page := summary.page 0 (max s.cursor size)
    (⟨s.state, some page⟩, { s with cursor := max s.cursor page.stop })
  | _ => (⟨s.state, none⟩, s)

def fetch (s : Session) (size : Nat) : Except ViewError (Page × Session) :=
  match s.state with
  | .completed summary =>
    .ok (summary.page s.cursor size,
      { s with cursor := min (s.cursor + size) summary.rowCount })
  | state => .error (.invalidState s.id state.phase .completed)

def close (s : Session) : Session :=
  { s with slot := none, run := none, cancelled := true }

end Session

end DbConsole
