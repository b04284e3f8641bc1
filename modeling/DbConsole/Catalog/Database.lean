import DbConsole.Catalog.Error
import DbConsole.Sql.Statement

namespace DbConsole

structure StoredRelation where
  relation : Relation
  rows : List Row
  /-- Whether a materialized view has been filled; other relations always are. -/
  populated : Bool
deriving Inhabited

structure Database where
  name : String
  schemas : SortedMap Oid String
  relations : SortedMap Oid StoredRelation
  triggers : SortedMap Oid Trigger
deriving Inhabited

namespace Database

def new (name : String) (publicOid : Oid) : Database :=
  ⟨name, SortedMap.empty.insert publicOid "public", .empty, .empty⟩

def schemaOid (db : Database) (name : String) : Except CatalogError Oid :=
  match db.schemas.entries.find? (·.2 = name) with
  | some (oid, _) => .ok oid
  | none => .error (.schemaNotFound name)

def relation (db : Database) (oid : Oid) : Except CatalogError StoredRelation :=
  match db.relations.find? oid with
  | some r => .ok r
  | none => .error (.objectNotFound oid)

def relationAs (db : Database) (oid : Oid) (kind : RelationKind) :
    Except CatalogError StoredRelation := do
  let r ← db.relation oid
  if r.relation.kind = kind then return r
  else throw (.refused (.wrongKind r.relation.name.name kind))

def trigger (db : Database) (oid : Oid) : Except CatalogError Trigger :=
  match db.triggers.find? oid with
  | some t => .ok t
  | none => .error (.objectNotFound oid)

def triggerOf (db : Database) (tableOid oid : Oid) : Except CatalogError Trigger := do
  let t ← db.trigger oid
  if t.tableOid = tableOid then return t else throw (.objectNotFound oid)

/-- Whether a trigger of the table, other than the one with the number `except`, has the name. -/
def triggerNameTaken (db : Database) (tableOid : Oid) (name : String) (except : Option Oid) :
    Bool :=
  db.triggers.values.any fun t =>
    t.tableOid = tableOid && t.name = name && except != some t.oid

def putStored (db : Database) (oid : Oid) (r : StoredRelation) : Database :=
  { db with relations := db.relations.insert oid r }

def putRelation (db : Database) (oid : Oid) (stored : StoredRelation) (r : Relation) : Database :=
  db.putStored oid { stored with relation := r }

def putTrigger (db : Database) (oid : Oid) (t : Trigger) : Database :=
  { db with triggers := db.triggers.insert oid t }

/-- An empty comment is no comment. -/
def commentText (text : Option String) : Option String := text.filter (· ≠ "")

def applyComment (db : Database) (target : CommentTarget) (text : Option String) :
    Except CatalogError Database := do
  match target with
  | .relation oid kind _ =>
    let r ← db.relationAs oid kind
    return db.putRelation oid r { r.relation with description := commentText text }
  | .trigger oid _ _ =>
    let t ← db.trigger oid
    return db.putTrigger oid { t with description := commentText text }

def renameTrigger (db : Database) (oid : Oid) (name : String) : Except CatalogError Database := do
  let t ← db.trigger oid
  if db.triggerNameTaken t.tableOid name (some oid) then
    let table ← db.relation t.tableOid
    throw (.duplicate (.trigger name table.relation.name.name))
  return db.putTrigger oid { t with name }

def setOptions (db : Database) (oid : Oid) (kind : RelationKind)
    (options : List (String × String)) : Except CatalogError Database := do
  let r ← db.relationAs oid kind
  if kind.hasParameters then
    let options := options.foldl (fun m (name, value) => m.insert name value) r.relation.options
    return db.putRelation oid r { r.relation with options }
  else throw (.refused (.noStorage kind r.relation.name.name))

def resetOptions (db : Database) (oid : Oid) (kind : RelationKind) (options : List String) :
    Except CatalogError Database := do
  let r ← db.relationAs oid kind
  let options := options.foldl SortedMap.erase r.relation.options
  return db.putRelation oid r { r.relation with options }

def apply (db : Database) : Statement → Except CatalogError Database
  | .comment target text => db.applyComment target text
  | .setTriggerMode oid _ _ mode => do
    let t ← db.trigger oid
    return db.putTrigger oid { t with mode }
  | .renameTrigger oid _ _ new => db.renameTrigger oid new
  | .setOptions oid kind _ options => db.setOptions oid kind options
  | .resetOptions oid kind _ options => db.resetOptions oid kind options

/-- Applies statements one after the other; the first that fails makes the whole list fail. -/
def applyAll (db : Database) (statements : List Statement) : Except CatalogError Database :=
  statements.foldlM apply db

end Database

end DbConsole
