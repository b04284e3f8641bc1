import DbConsole.Console.Browse
import DbConsole.Console.Sessions
import DbConsole.Http.Message
import DbConsole.Http.Route
import DbConsole.Wire.Update

namespace DbConsole.Console

open Http

def isBodyBlank (c : Char) : Bool :=
  c == ' ' || c == '\t' || c == '\n' || c == '\x0c' || c == '\r'

def readBody {α : Type} (read? : Source → Option α) (body : String) : Except ConsoleError α :=
  match (Source.ofText? body).bind read? with
  | some a => .ok a
  | none => .error (.badRequest .malformedBody)

def readFilter (body : String) : Except ConsoleError (List Condition) :=
  if body.toList.all isBodyBlank then .ok [] else readBody ViewRequest.readFilter? body

def readMode (code : UInt8) : Except ConsoleError ViewMode :=
  match ViewMode.ofCode? code with
  | some mode => .ok mode
  | none => .error (.badRequest (.unknownViewMode code))

def readKind (text : String) : Except ConsoleError ObjectKind :=
  match ObjectKind.ofText? text with
  | some kind => .ok kind
  | none => .error (.view (.invalidTarget (.unsupportedKind text)))

def readRequest (mode : UInt8) (kind : String) (database : DatabasePath) (oid : Oid)
    (body : String) : Except ConsoleError ViewRequest := do
  let mode ← readMode mode
  let kind ← readKind kind
  let filter ← readFilter body
  return { target := { database, oid, kind }, mode, filter }

/-- Answers what an operation answers, and leaves the console as it was if the operation fails. -/
def respond {α : Type} (c : Console) (data : α → Json) :
    Except ViewError (α × Console) → Response × Console
  | .ok (a, c) => (.success (data a), c)
  | .error e => (.failure (.view e), c)

def respondOpening (c : Console) (id : String) :
    Except ConsoleError ViewRequest → Response × Console
  | .error e => (.failure e, c)
  | .ok request =>
    let (answer, c) := c.openSession id request
    (.ofExcept (fun id => .object [("gridTransId", .string id)]) .view answer, c)

def respondHealth (c : Console) : Response :=
  .success (.object [("sessions", .nat c.registeredCount), ("status", .string "ok")])

def relationType : RelationKind → String
  | .materializedView => "mview"
  | _ => "table"

def respondRelationUpdate (c : Console) (kind : RelationKind) (p : DatabasePath)
    (schemaOid oid : Oid) (body : String) : Response × Console :=
  match readBody RelationUpdate.read? body with
  | .error e => (.failure e, c)
  | .ok u =>
    match c.changeRelation p schemaOid oid kind u with
    | (.error e, c) => (.failure e, c)
    | (.ok r, c) => (.node r.oid (relationType kind) r.name.name, c)

def respondTriggerUpdate (c : Console) (p : DatabasePath) (schemaOid tableOid oid : Oid)
    (body : String) : Response × Console :=
  match readBody TriggerUpdate.read? body with
  | .error e => (.failure e, c)
  | .ok u =>
    match c.changeTrigger p schemaOid tableOid oid u with
    | (.error e, c) => (.failure e, c)
    | (.ok t, c) => (.node t.oid "trigger" t.name, c)

/-- The response to a route, with `update` telling an update from a look at an object. -/
def respondRoute (c : Console) (update : Bool) (body : String) : Route → Response × Console
  | .openView id mode kind database oid =>
    c.respondOpening id (readRequest mode kind database oid body)
  | .start id =>
    c.respond (fun sql => .object [("sql", .string sql), ("status", .bool true)]) (c.start id)
  | .poll id => c.respond pollJson (c.poll id)
  | .fetch id => c.respond fetchJson (c.fetch id)
  | .close id =>
    let (closed, c) := c.close id
    (.success (.object [("closed", .bool closed)]), c)
  | .health => (c.respondHealth, c)
  | .relation kind p schemaOid oid =>
    if update then c.respondRelationUpdate kind p schemaOid oid body
    else
      let (answer, c) := c.viewRelation p schemaOid oid kind
      (.ofExcept (fun r => (RelationProperties.ofRelation r).toJson) id answer, c)
  | .trigger p schemaOid tableOid oid =>
    if update then c.respondTriggerUpdate p schemaOid tableOid oid body
    else
      let (answer, c) := c.viewTrigger p schemaOid tableOid oid
      (.ofExcept Trigger.properties id answer, c)

def badPath (e : Endpoint) (error : PathError) : Response :=
  if e.isPlain then ⟨400, .text error.message⟩
  else .failure (.view (.invalidTarget (.reported error.message)))

def respondEndpoint (c : Console) (r : Request) (e : Endpoint) (parameters : List Parameter) :
    Response × Console :=
  match e.route parameters with
  | .error error => (badPath e error, c)
  | .ok route => c.respondRoute (r.method = "PUT") r.body route

/-- The response to a request: 404 where the path leads nowhere, and 405 where it does not take the
method. -/
def serve (c : Console) (r : Request) : Response × Console :=
  match (segments? r.uri).bind Endpoint.ofSegments? with
  | none => (.empty 404, c)
  | some (e, parameters) =>
    if r.method ∈ e.methods then
      let (response, c) := c.respondEndpoint r e parameters
      (if r.method = "HEAD" then response.headOnly else response, c)
    else (.empty 405, c)

end DbConsole.Console
