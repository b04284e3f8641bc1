import DbConsole.Catalog.Database

namespace DbConsole

structure Server where
  name : String
  available : Bool
  databases : SortedMap UInt32 Database
deriving Inhabited

structure Catalog where
  groups : SortedMap UInt32 (SortedMap UInt32 Server)
  /-- The number that the next object gets. -/
  nextOid : Nat
deriving Inhabited

namespace Catalog

/-- Numbers below this one are kept for the objects of the system. -/
def firstUserOid : Nat := 16384

def empty : Catalog := ⟨.empty, firstUserOid⟩

def group (c : Catalog) (g : UInt32) : Except CatalogError (SortedMap UInt32 Server) :=
  match c.groups.find? g with
  | some servers => .ok servers
  | none => .error (.groupNotFound g)

def server (c : Catalog) (g s : UInt32) : Except CatalogError Server := do
  let servers ← c.group g
  match servers.find? s with
  | some server => return server
  | none => throw (.serverNotFound s)

def database (c : Catalog) (p : DatabasePath) : Except CatalogError Database := do
  let server ← c.server p.group p.server
  match server.databases.find? p.database with
  | some db => return db
  | none => throw (.databaseNotFound p.database)

def relation (c : Catalog) (p : DatabasePath) (oid : Oid) : Except CatalogError Relation := do
  let db ← c.database p
  let stored ← db.relation oid
  return stored.relation

def trigger (c : Catalog) (p : DatabasePath) (tableOid oid : Oid) :
    Except CatalogError Trigger := do
  let db ← c.database p
  db.triggerOf tableOid oid

def databaseNamed (c : Catalog) (g s : UInt32) (name : String) : Except CatalogError UInt32 := do
  let server ← c.server g s
  match server.databases.entries.find? (·.2.name = name) with
  | some (oid, _) => return oid
  | none => throw (.refused (.unknownDatabase name))

def schemaNamed (c : Catalog) (p : DatabasePath) (name : String) : Except CatalogError Oid := do
  let db ← c.database p
  db.schemaOid name

def modifyServer (c : Catalog) (g s : UInt32) (f : Server → Server) : Catalog :=
  { c with groups := c.groups.modify g fun servers => servers.modify s f }

def putDatabase (c : Catalog) (p : DatabasePath) (db : Database) : Catalog :=
  c.modifyServer p.group p.server fun server =>
    { server with databases := server.databases.insert p.database db }

end Catalog

end DbConsole
