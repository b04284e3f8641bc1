import DbConsole.Console.Basic
import DbConsole.Http.Error
import DbConsole.Update.Relation
import DbConsole.Update.Trigger

namespace DbConsole.Console

def relationIn (c : Console) (k : Connection) (schemaOid oid : Oid) (kind : RelationKind) :
    Except CatalogError Relation := do
  let r ← c.relation k oid
  if r.schemaOid = schemaOid ∧ r.kind = kind then return r else throw (.objectNotFound oid)

def triggerIn (c : Console) (k : Connection) (schemaOid tableOid oid : Oid) :
    Except CatalogError Trigger := do
  let _ ← c.relationIn k schemaOid tableOid .table
  c.trigger k tableOid oid

def executeAny (c : Console) (k : Connection) (statements : List Statement) :
    Except CatalogError Console :=
  if statements = [] then .ok c else c.execute k statements

def withConnection {α : Type} (c : Console) (p : DatabasePath)
    (operation : Console → Connection → Except ConsoleError α × Console) :
    Except ConsoleError α × Console :=
  match c.connect p with
  | .error e => (.error (.catalog e), c)
  | .ok (k, c) =>
    let (answer, c) := operation c k
    (answer, c.release 1)

def viewRelation (c : Console) (p : DatabasePath) (schemaOid oid : Oid) (kind : RelationKind) :
    Except ConsoleError Relation × Console :=
  c.withConnection p fun c k => ((c.relationIn k schemaOid oid kind).mapError .catalog, c)

def viewTrigger (c : Console) (p : DatabasePath) (schemaOid tableOid oid : Oid) :
    Except ConsoleError Trigger × Console :=
  c.withConnection p fun c k => ((c.triggerIn k schemaOid tableOid oid).mapError .catalog, c)

def carryOut (c : Console) (k : Connection) (statements : Except BadRequest (List Statement)) :
    Except ConsoleError Console := do
  let statements ← statements.mapError .badRequest
  (c.executeAny k statements).mapError .catalog

def changeRelation (c : Console) (p : DatabasePath) (schemaOid oid : Oid) (kind : RelationKind)
    (u : RelationUpdate) : Except ConsoleError Relation × Console :=
  c.withConnection p fun c k =>
    match c.relationIn k schemaOid oid kind with
    | .error e => (.error (.catalog e), c)
    | .ok r =>
      match c.carryOut k (u.statements r) with
      | .error e => (.error e, c)
      | .ok c => (.ok r, c)

/-- Updates a trigger; answers what the catalog says of it afterwards. Where it cannot be asked, the
trigger has been updated all the same. -/
def changeTrigger (c : Console) (p : DatabasePath) (schemaOid tableOid oid : Oid)
    (u : TriggerUpdate) : Except ConsoleError Trigger × Console :=
  c.withConnection p fun c k =>
    match c.triggerIn k schemaOid tableOid oid with
    | .error e => (.error (.catalog e), c)
    | .ok t =>
      match c.carryOut k (u.statements t) with
      | .error e => (.error e, c)
      | .ok c => ((c.triggerAgain k tableOid oid).mapError .catalog, c)

end DbConsole.Console
