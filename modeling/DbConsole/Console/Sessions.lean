import DbConsole.Console.Opening

namespace DbConsole.Console

def start (c : Console) (id : String) : Except ViewError (String × Console) := do
  let s ← c.session id
  let (sql, s) ← s.start c.pageSize
  return (sql, c.putSession id s)

def poll (c : Console) (id : String) : Except ViewError (Progress × Console) := do
  let s ← c.session id
  let (status, s) := s.poll c.pageSize
  return (status, c.putSession id s)

def fetch (c : Console) (id : String) : Except ViewError (Page × Console) := do
  let s ← c.session id
  let (page, s) ← s.fetch c.pageSize
  return (page, c.putSession id s)

def close (c : Console) (id : String) : Bool × Console :=
  match c.session? id with
  | some s => (true, (c.putLineage id (c.lineage id).retire).release s.connections)
  | none => (false, c)

/-- Replaces all sessions, and gives up the connections that they own no more. -/
def replaceSessions (c : Console) (sessions : SortedMap String Lineage) : Console :=
  { c with sessions }.release (ownedConnections c.sessions - ownedConnections sessions)

def closeAll (c : Console) : Console := c.replaceSessions (c.sessions.map (·.retire))

/-- Closes the sessions that nobody has looked at for so many seconds; answers how many. The clock
stands still, so these are all sessions or none. -/
def closeIdle (c : Console) (seconds : Nat) : Nat × Console :=
  if seconds = 0 then (c.registeredCount, c.closeAll) else (0, c)

def settle (c : Console) : Console :=
  c.replaceSessions (c.sessions.map fun l =>
    l.map fun s => s.settle fun k batchSize => c.stream k s.query batchSize)

def hold (c : Console) (id name : String) : Except ViewError Console := do
  let _ ← c.session id
  let handle := ⟨id, (c.lineage id).retired.length⟩
  return { c with handles := c.handles.insert name handle }

def held? (c : Console) (name : String) : Option (Handle × Session) := do
  let h ← c.handles.find? name
  let s ← (c.lineage h.id).get? h.place
  return (h, s)

def putHeld (c : Console) (h : Handle) (s : Session) : Console :=
  c.putLineage h.id ((c.lineage h.id).set h.place s)

def startHeld (c : Console) (h : Handle) (s : Session) (size : Nat) :
    Except ViewError (String × Console) := do
  let (sql, s) ← s.start size
  return (sql, c.putHeld h s)

def pollHeld (c : Console) (h : Handle) (s : Session) (size : Nat) : Progress × Console :=
  let (status, s) := s.poll size
  (status, c.putHeld h s)

def fetchHeld (c : Console) (h : Handle) (s : Session) (size : Nat) :
    Except ViewError (Page × Console) := do
  let (page, s) ← s.fetch size
  return (page, c.putHeld h s)

/-- Closes a session that stays registered, if it is. -/
def closeHeld (c : Console) (h : Handle) (s : Session) : Console :=
  (c.putHeld h s.close).release s.connections

end DbConsole.Console
