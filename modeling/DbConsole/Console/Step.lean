import DbConsole.Console.Router
import DbConsole.View.Identifier

namespace DbConsole

inductive Step where
  -- The catalog
  | placeGroup (group : UInt32)
  | placeServer (group server : UInt32) (name : String)
  | createDatabase (group server : UInt32) (name : String)
  | createSchema (p : DatabasePath) (name : String)
  | databaseNamed (group server : UInt32) (name : String)
  | schemaNamed (p : DatabasePath) (name : String)
  | createRelation (p : DatabasePath) (draft : Catalog.RelationDraft)
  | createMaterializedView (p : DatabasePath) (schema name : String) (columns : List Column)
      (populated : Bool)
  | refresh (p : DatabasePath) (oid : Oid) (rows : List Row)
  | insert (p : DatabasePath) (oid : Oid) (rows : List Row)
  | createTrigger (p : DatabasePath) (tableOid : Oid) (name function : String)
  | setAvailable (group server : UInt32) (available : Bool)
  -- Connections used directly
  | connect (link : String) (p : DatabasePath)
  | disconnect (link : String)
  | viewRelation (link : String) (oid : Oid)
  | viewTrigger (link : String) (tableOid oid : Oid)
  | query (link : String) (q : Select) (batchSize : Nat)
  | execute (link : String) (statements : List Statement)
  -- Sessions by id
  | openSession (id : String) (request : ViewRequest)
  | openFresh (random : Nat) (request : ViewRequest)
  | openPair (id : String) (request : ViewRequest) (turns : List Turn)
  | start (id : String)
  | poll (id : String)
  | fetch (id : String)
  | close (id : String)
  | hasSession (id : String)
  | closeAll
  | closeIdle (seconds : Nat)
  /-- Idle sessions are closed for a while, and then started queries carried out. -/
  | sweep (seconds : Nat)
  | settle
  -- Held sessions
  | hold (id handle : String)
  | heldState (handle : String)
  | startHeld (handle : String) (size : Nat)
  | pollHeld (handle : String) (size : Nat)
  | fetchHeld (handle : String) (size : Nat)
  | closeHeld (handle : String)
  -- The rest
  | setFaults (faults : Faults)
  | serve (r : Http.Request)

inductive Answer where
  | nothing
  | flag (b : Bool)
  | number (n : Nat)
  | text (s : String)
  | relation (r : Relation)
  | trigger (t : Trigger)
  | batches (l : List (List Row))
  | status (s : Progress)
  | page (p : Page)
  | pair (first second : Except ViewError String)
  | response (r : Http.Response)
  | failed (e : ConsoleError)
  | broken
  /-- The step never ends. -/
  | pending
  | unknownName

namespace Answer

def ofCatalog {α : Type} (answer : α → Answer) : Except CatalogError α → Answer
  | .ok a => answer a
  | .error e => .failed (.catalog e)

def ofView {α : Type} (answer : α → Answer) : Except ViewError α → Answer
  | .ok a => answer a
  | .error e => .failed (.view e)

def uint32 (n : UInt32) : Answer := .number n.toNat

/-- The batches of a query up to its end, or what comes in their place. -/
def ofEvents (before : List (List Row)) : List StreamEvent → Answer
  | [] => .batches before.reverse
  | .batch rows :: rest => ofEvents (rows :: before) rest
  | .error e :: _ => .failed (.catalog e)
  | .abort _ :: _ => .broken
  | .stall :: _ => .pending

end Answer

namespace Console

def changeCatalog {α : Type} (c : Console) (answer : α → Answer) :
    Except CatalogError (α × Catalog) → Answer × Console
  | .ok (a, catalog) => (answer a, { c with catalog })
  | .error e => (.failed (.catalog e), c)

def alterCatalog (c : Console) (changed : Except CatalogError Catalog) : Answer × Console :=
  c.changeCatalog (fun _ => .nothing) (changed.map fun catalog => ((), catalog))

def changeView {α : Type} (c : Console) (answer : α → Answer) :
    Except ViewError (α × Console) → Answer × Console
  | .ok (a, c) => (answer a, c)
  | .error e => (.failed (.view e), c)

def stepInsert (c : Console) (p : DatabasePath) (oid : Oid) (rows : List Row) :
    Answer × Console :=
  match c.catalog.insert p oid rows with
  | .ok (n, catalog) => (.number n, { c with catalog })
  | .error (.refused e) => (.failed (.catalog e), c)
  | .error .shortStoredRow => (.broken, c)

/-- Opens a connection under a name; one that had the name is given up after that. -/
def stepConnect (c : Console) (link : String) (p : DatabasePath) : Answer × Console :=
  match c.connect p with
  | .error e => (.failed (.catalog e), c)
  | .ok (k, c) =>
    let former := if c.links.contains link then 1 else 0
    (.text p.text, { c with links := c.links.insert link k }.release former)

def stepDisconnect (c : Console) (link : String) : Answer × Console :=
  if c.links.contains link then
    (.nothing, { c with links := c.links.erase link }.release 1)
  else (.unknownName, c)

def withLink (c : Console) (link : String) (use : Connection → Answer × Console) :
    Answer × Console :=
  match c.links.find? link with
  | some k => use k
  | none => (.unknownName, c)

def withHeld (c : Console) (name : String) (use : Handle → Session → Answer × Console) :
    Answer × Console :=
  match c.held? name with
  | some (h, s) => use h s
  | none => (.unknownName, c)

def stepOpen (c : Console) (id : String) (request : ViewRequest) : Answer × Console :=
  let (answer, c) := c.openSession id request
  (.ofView .text answer, c)

/-- The turns of two openings. Where opening a connection lets others go first, both find the id
free or taken before either connects. -/
def turns (c : Console) : List Turn := if c.faults.yielding then [.first, .second] else []

def stepOpenPair (c : Console) (id : String) (request : ViewRequest) (turns : List Turn) :
    Answer × Console :=
  let (first, second, c) := c.openPair id request request turns
  (.pair first second, c)

def stepExecute (c : Console) (k : Connection) (statements : List Statement) :
    Answer × Console :=
  match c.execute k statements with
  | .ok c => (.nothing, c)
  | .error e => (.failed (.catalog e), c)

def step (c : Console) : Step → Answer × Console
  | .placeGroup g => (.nothing, { c with catalog := c.catalog.placeGroup g })
  | .placeServer g s name => c.alterCatalog (c.catalog.placeServer g s name)
  | .createDatabase g s name => c.changeCatalog .uint32 (c.catalog.createDatabase g s name)
  | .createSchema p name => c.changeCatalog .uint32 (c.catalog.createSchema p name)
  | .databaseNamed g s name => (.ofCatalog .uint32 (c.catalog.databaseNamed g s name), c)
  | .schemaNamed p name => (.ofCatalog .uint32 (c.catalog.schemaNamed p name), c)
  | .createRelation p draft => c.changeCatalog .uint32 (c.catalog.createRelation p draft)
  | .createMaterializedView p schema name columns populated =>
    c.changeCatalog .uint32 (c.catalog.createMaterializedView p schema name columns populated)
  | .refresh p oid rows => c.alterCatalog (c.catalog.refresh p oid rows)
  | .insert p oid rows => c.stepInsert p oid rows
  | .createTrigger p tableOid name function =>
    c.changeCatalog .uint32 (c.catalog.createTrigger p tableOid name function)
  | .setAvailable g s available => c.alterCatalog (c.catalog.setAvailable g s available)
  | .connect link p => c.stepConnect link p
  | .disconnect link => c.stepDisconnect link
  | .viewRelation link oid =>
    c.withLink link fun k => (.ofCatalog .relation (c.relation k oid), c)
  | .viewTrigger link tableOid oid =>
    c.withLink link fun k => (.ofCatalog .trigger (c.trigger k tableOid oid), c)
  | .query link q batchSize =>
    c.withLink link fun k => (.ofEvents [] (c.stream k q batchSize), c)
  | .execute link statements => c.withLink link fun k => c.stepExecute k statements
  | .openSession id request => c.stepOpen id request
  | .openFresh random request => c.stepOpen (Session.freshId random) request
  | .openPair id request turns => c.stepOpenPair id request turns
  | .start id => c.changeView .text (c.start id)
  | .poll id => c.changeView .status (c.poll id)
  | .fetch id => c.changeView .page (c.fetch id)
  | .close id =>
    let (closed, c) := c.close id
    (.flag closed, c)
  | .hasSession id => (.flag (c.isRegistered id), c)
  | .closeAll => (.nothing, c.closeAll)
  | .closeIdle seconds =>
    let (n, c) := c.closeIdle seconds
    (.number n, c)
  | .sweep seconds => (.nothing, (c.closeIdle seconds).2.settle)
  | .settle => (.nothing, c.settle)
  | .hold id handle =>
    match c.hold id handle with
    | .ok c => (.text id, c)
    | .error e => (.failed (.view e), c)
  | .heldState handle => c.withHeld handle fun _ s => (.text s.state.phase.text, c)
  | .startHeld handle size =>
    c.withHeld handle fun h s => c.changeView .text (c.startHeld h s size)
  | .pollHeld handle size =>
    c.withHeld handle fun h s =>
      let (status, c) := c.pollHeld h s size
      (.status status, c)
  | .fetchHeld handle size =>
    c.withHeld handle fun h s => c.changeView .page (c.fetchHeld h s size)
  | .closeHeld handle => c.withHeld handle fun h s => (.nothing, c.closeHeld h s)
  | .setFaults faults => (.nothing, { c with faults })
  | .serve r =>
    let (response, c) := c.serve r
    (.response response, c)

def run (c : Console) (steps : List Step) : Console := steps.foldl (fun c s => (c.step s).2) c

end Console

end DbConsole
