import DbConsole.Catalog.Change
import DbConsole.Catalog.Query
import DbConsole.View.Lineage

namespace DbConsole

/-- The faults in force, one for each call that a request can make. -/
structure Faults where
  connect : Option CatalogError
  relation : Option CatalogError
  trigger : Option CatalogError
  /-- Strikes where a trigger is looked up once more, after it was changed. -/
  triggerAgain : Option CatalogError := trigger
  execute : Option CatalogError
  query : Option QueryFault
  /-- Whether opening a connection lets others go first. -/
  yielding : Bool
deriving Inhabited

namespace Faults

def none : Faults := ⟨.none, .none, .none, .none, .none, .none, false⟩

/-- Fails with the fault, if there is one. -/
def strike {α : Type} (fault : Option CatalogError) (otherwise : Except CatalogError α) :
    Except CatalogError α :=
  match fault with
  | some e => .error e
  | .none => otherwise

end Faults

/-- Where a held session is found: its id and its place among the sessions under that id. -/
structure Handle where
  id : String
  place : Nat
deriving DecidableEq, Inhabited

/-- A catalog, the connections that are open to it, and the sessions on it, registered or not. The
connections are one number: opening adds one, giving up takes one away, and where sessions are
closed or replaced the ones that these no longer own are taken away together. -/
structure Console where
  catalog : Catalog
  connections : Nat
  sessions : SortedMap String Lineage
  links : SortedMap String Connection
  handles : SortedMap String Handle
  faults : Faults
  /-- Rows in a batch and in a page. -/
  pageSize : Nat
deriving Inhabited

namespace Console

/-- A console without sessions; no rows to a page count as one. -/
def new (catalog : Catalog) (pageSize : Nat) : Console :=
  { catalog, connections := 0, sessions := .empty, links := .empty, handles := .empty
    faults := .none, pageSize := max pageSize 1 }

def connect (c : Console) (p : DatabasePath) : Except CatalogError (Connection × Console) := do
  Faults.strike c.faults.connect (c.catalog.reach p)
  return (⟨p⟩, { c with connections := c.connections + 1 })

def release (c : Console) (connections : Nat) : Console :=
  { c with connections := c.connections - connections }

def relation (c : Console) (k : Connection) (oid : Oid) : Except CatalogError Relation :=
  Faults.strike c.faults.relation (c.catalog.relation k.database oid)

def trigger (c : Console) (k : Connection) (tableOid oid : Oid) : Except CatalogError Trigger :=
  Faults.strike c.faults.trigger (c.catalog.trigger k.database tableOid oid)

def triggerAgain (c : Console) (k : Connection) (tableOid oid : Oid) :
    Except CatalogError Trigger :=
  Faults.strike c.faults.triggerAgain (c.catalog.trigger k.database tableOid oid)

def execute (c : Console) (k : Connection) (statements : List Statement) :
    Except CatalogError Console := do
  let catalog ← Faults.strike c.faults.execute (c.catalog.execute k.database statements)
  return { c with catalog }

def stream (c : Console) (k : Connection) (q : Select) (batchSize : Nat) : List StreamEvent :=
  QueryFault.apply c.faults.query (c.catalog.stream k.database q batchSize)

def lineage (c : Console) (id : String) : Lineage := (c.sessions.find? id).getD .empty

def session? (c : Console) (id : String) : Option Session := (c.lineage id).current

def isRegistered (c : Console) (id : String) : Bool := (c.session? id).isSome

def registeredCount (c : Console) : Nat := (c.sessions.values.filter (·.current.isSome)).length

def session (c : Console) (id : String) : Except ViewError Session :=
  match c.session? id with
  | some s => .ok s
  | none => .error (.unknownSession id)

def putLineage (c : Console) (id : String) (l : Lineage) : Console :=
  { c with sessions := c.sessions.insert id l }

def putSession (c : Console) (id : String) (s : Session) : Console :=
  c.putLineage id ((c.lineage id).register s)

def ownedConnections (sessions : SortedMap String Lineage) : Nat :=
  sessions.values.foldr (fun l n => l.connections + n) 0

end Console

end DbConsole
