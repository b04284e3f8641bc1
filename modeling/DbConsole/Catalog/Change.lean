import DbConsole.Catalog.Basic
import DbConsole.Catalog.Insert

namespace DbConsole.Catalog

def freshOid (c : Catalog) : Oid := UInt32.ofNat c.nextOid

def advance (c : Catalog) : Catalog := { c with nextOid := c.nextOid + 1 }

/-- An empty group takes the place of what had the number. -/
def placeGroup (c : Catalog) (g : UInt32) : Catalog :=
  { c with groups := c.groups.insert g .empty }

def placeServer (c : Catalog) (g s : UInt32) (name : String) : Except CatalogError Catalog := do
  let servers ← c.group g
  return { c with groups := c.groups.insert g (servers.insert s ⟨name, true, .empty⟩) }

def createDatabase (c : Catalog) (g s : UInt32) (name : String) :
    Except CatalogError (UInt32 × Catalog) := do
  let _ ← c.server g s
  let oid := c.freshOid
  let c := c.advance
  let db := Database.new name c.freshOid
  return (oid, c.advance.putDatabase ⟨g, s, oid⟩ db)

def createSchema (c : Catalog) (p : DatabasePath) (name : String) :
    Except CatalogError (Oid × Catalog) := do
  let db ← c.database p
  if (db.schemaOid name).isOk then
    throw (.duplicate (.schema name))
  let oid := c.freshOid
  return (oid, c.advance.putDatabase p { db with schemas := db.schemas.insert oid name })

structure RelationDraft where
  schema : String
  name : String
  kind : RelationKind
  columns : List Column
  primaryKey : List String

/-- Columns of the primary key must not be empty. -/
def RelationDraft.finalColumns (d : RelationDraft) : List Column :=
  d.columns.map fun c => { c with notNull := c.notNull || d.primaryKey.contains c.name }

def RelationDraft.missingKey? (d : RelationDraft) : Option String :=
  d.primaryKey.find? fun k => !d.columns.any (·.name = k)

def createStored (c : Catalog) (p : DatabasePath) (d : RelationDraft) (populated : Bool) :
    Except CatalogError (Oid × Catalog) := do
  let db ← c.database p
  let schemaOid ← db.schemaOid d.schema
  if db.relations.values.any fun r =>
      r.relation.schemaOid = schemaOid && r.relation.name.name = d.name then
    throw (.duplicate (.relation d.name))
  if let some k := d.missingKey? then
    throw (.undefinedColumn k)
  let oid := c.freshOid
  let relation : Relation :=
    { oid, schemaOid, name := ⟨d.schema, d.name⟩, kind := d.kind, columns := d.finalColumns
      primaryKey := d.primaryKey, description := none, options := .empty }
  return (oid, c.advance.putDatabase p (db.putStored oid ⟨relation, [], populated⟩))

/-- Creates a relation without rows; it counts as filled. Like every change to a catalog it answers
the catalog after it, or an error and nothing else, so that the numbers it would have given out are
still free. -/
def createRelation (c : Catalog) (p : DatabasePath) (d : RelationDraft) :
    Except CatalogError (Oid × Catalog) := c.createStored p d true

/-- Creates a materialized view, filled or not. -/
def createMaterializedView (c : Catalog) (p : DatabasePath) (schema name : String)
    (columns : List Column) (populated : Bool) : Except CatalogError (Oid × Catalog) :=
  c.createStored p ⟨schema, name, .materializedView, columns, []⟩ populated

def refresh (c : Catalog) (p : DatabasePath) (oid : Oid) (rows : List Row) :
    Except CatalogError Catalog := do
  let db ← c.database p
  let r ← db.relationAs oid .materializedView
  return c.putDatabase p (db.putStored oid { r with rows, populated := true })

def insert (c : Catalog) (p : DatabasePath) (oid : Oid) (rows : List Row) :
    Except InsertError (Nat × Catalog) := do
  let db ← (c.database p).mapError .refused
  let r ← (db.relation oid).mapError .refused
  let r ← r.insert rows
  return (rows.length, c.putDatabase p (db.putStored oid r))

def createTrigger (c : Catalog) (p : DatabasePath) (tableOid : Oid) (name function : String) :
    Except CatalogError (Oid × Catalog) := do
  let db ← c.database p
  let table ← db.relation tableOid
  let table := table.relation
  if table.kind ≠ .table then
    throw (.refused (.notTable table.name.name))
  if db.triggerNameTaken tableOid name none then
    throw (.duplicate (.trigger name table.name.name))
  let oid := c.freshOid
  let trigger : Trigger :=
    { oid, tableOid, name, table := table.name, function, mode := .origin, description := none }
  return (oid, c.advance.putDatabase p (db.putTrigger oid trigger))

def setAvailable (c : Catalog) (g s : UInt32) (available : Bool) : Except CatalogError Catalog := do
  let _ ← c.server g s
  return c.modifyServer g s fun server => { server with available }

def execute (c : Catalog) (p : DatabasePath) (statements : List Statement) :
    Except CatalogError Catalog := do
  let db ← c.database p
  let db ← db.applyAll statements
  return c.putDatabase p db

/-- One server with the database `postgres`, on which everything starts. -/
def standard : Catalog :=
  let c := empty.placeGroup 1
  let c := (c.placeServer 1 1 "PostgreSQL").toOption.getD c
  ((c.createDatabase 1 1 "postgres").toOption.map (·.2)).getD c

end DbConsole.Catalog
