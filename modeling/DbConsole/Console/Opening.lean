import DbConsole.Console.Basic

namespace DbConsole

/-- Opening a session takes four steps: the id must be free, a connection is opened, the query is
prepared on it, and the session is registered if the id is still free. Other steps may come between
them, so two clients may be opening a session under one id at the same time. -/
inductive Opening where
  | asked
  | admitted
  | connected (k : Connection)
  | prepared (s : Session)
  | done (answer : Except ViewError String)

namespace Opening

def stepsLeft : Opening → Nat
  | .asked => 4
  | .admitted => 3
  | .connected _ => 2
  | .prepared _ => 1
  | .done _ => 0

end Opening

inductive Turn where
  | first
  | second
deriving DecidableEq

namespace Console

variable (id : String) (request : ViewRequest)

def advance (c : Console) : Opening → Opening × Console
  | .asked =>
    (if c.isRegistered id then .done (.error (.duplicateSession id)) else .admitted, c)
  | .admitted =>
    match c.connect request.target.database with
    | .error e => (.done (.error (.ofCatalog e)), c)
    | .ok (k, c) => (.connected k, c)
  | .connected k =>
    match request.prepare (c.relation k request.target.oid) with
    | .error e => (.done (.error e), c.release 1)
    | .ok (r, q) => (.prepared (.new id r q k), c)
  | .prepared s =>
    if c.isRegistered id then
      (.done (.error (.duplicateSession id)), c.release s.connections)
    else (.done (.ok id), c.putSession id s)
  | .done answer => (.done answer, c)

theorem stepsLeft_advance (c : Console) (o : Opening) :
    (c.advance id request o).1.stepsLeft ≤ o.stepsLeft - 1 := by
  cases o <;> simp only [advance] <;> (try split) <;> simp [Opening.stepsLeft]

def complete (c : Console) (o : Opening) : Except ViewError String × Console :=
  match o with
  | .done answer => (answer, c)
  | .asked =>
    let next := c.advance id request .asked
    complete next.2 next.1
  | .admitted =>
    let next := c.advance id request .admitted
    complete next.2 next.1
  | .connected k =>
    let next := c.advance id request (.connected k)
    complete next.2 next.1
  | .prepared s =>
    let next := c.advance id request (.prepared s)
    complete next.2 next.1
termination_by o.stepsLeft
decreasing_by
  all_goals exact Nat.lt_of_le_of_lt (stepsLeft_advance ..) (by simp [Opening.stepsLeft])

def openSession (c : Console) : Except ViewError String × Console := c.complete id request .asked

def interleave (first second : ViewRequest) (c : Console) (a b : Opening) :
    List Turn → Opening × Opening × Console
  | [] => (a, b, c)
  | .first :: rest =>
    let (a, c) := c.advance id first a
    interleave first second c a b rest
  | .second :: rest =>
    let (b, c) := c.advance id second b
    interleave first second c a b rest

/-- Opens two sessions under one id. After the turns given, the first opening takes its other steps,
and then the second. -/
def openPair (first second : ViewRequest) (c : Console) (turns : List Turn) :
    Except ViewError String × Except ViewError String × Console :=
  let (a, b, c) := c.interleave id first second .asked .asked turns
  let (answer, c) := c.complete id first a
  let (other, c) := c.complete id second b
  (answer, other, c)

end Console

end DbConsole
