import DbConsole.Json.Document
import DbConsole.Catalog.Relation
import DbConsole.View.Result

namespace DbConsole

open Document

variable {δ : Type} [Document δ]

namespace DatabasePath

def toJson (p : DatabasePath) : Json :=
  .object [("database", .uint32 p.database), ("group", .uint32 p.group),
    ("server", .uint32 p.server)]

def read? (d : δ) : Option DatabasePath := do
  let f ← Fields.read? ["group", "server", "database"] d
  let group ← f.required? "group" uint32?
  let server ← f.required? "server" uint32?
  let database ← f.required? "database" uint32?
  return { group, server, database }

end DatabasePath

namespace QualifiedName

def toJson (q : QualifiedName) : Json :=
  .object [("name", .string q.name), ("schema", .string q.schema)]

def read? (d : δ) : Option QualifiedName := do
  let f ← Fields.read? ["schema", "name"] d
  let schema ← f.required? "schema" string?
  let name ← f.required? "name" string?
  return { schema, name }

end QualifiedName

namespace RelationKind

def code : RelationKind → String
  | .table => "table"
  | .view => "view"
  | .materializedView => "materialized_view"
  | .foreignTable => "foreign_table"

def toJson (k : RelationKind) : Json := .string k.code

def read? (d : δ) : Option RelationKind :=
  choice? [("table", .table), ("view", .view), ("materialized_view", .materializedView),
    ("foreign_table", .foreignTable)] d

end RelationKind

namespace Column

def toJson (c : Column) : Json :=
  .object [("name", .string c.name), ("not_null", .bool c.notNull),
    ("type_name", .string c.typeName)]

def read? (d : δ) : Option Column := do
  let f ← Fields.read? ["name", "type_name", "not_null"] d
  let name ← f.required? "name" string?
  let typeName ← f.required? "type_name" string?
  let notNull ← f.withDefault? "not_null" false bool?
  return { name, typeName, notNull }

end Column

def StorageOptions.toJson (m : StorageOptions) : Json :=
  .object (m.map .string).entries

namespace Relation

def toJson (r : Relation) : Json :=
  .object [("columns", .array (r.columns.map (·.toJson))),
    ("description", .option .string r.description), ("kind", r.kind.toJson),
    ("name", r.name.toJson), ("oid", .uint32 r.oid), ("options", StorageOptions.toJson r.options),
    ("primary_key", .strings r.primaryKey), ("schema_oid", .uint32 r.schemaOid)]

def read? (d : δ) : Option Relation := do
  let f ← Fields.read? ["oid", "schema_oid", "name", "kind", "columns", "primary_key",
    "description", "options"] d
  let oid ← f.required? "oid" uint32?
  let schemaOid ← f.required? "schema_oid" uint32?
  let name ← f.required? "name" QualifiedName.read?
  let kind ← f.required? "kind" RelationKind.read?
  let columns ← f.required? "columns" (list? Column.read?)
  let primaryKey ← f.required? "primary_key" (list? string?)
  let description ← f.optional? "description" string?
  let options ← f.required? "options" (map? string?)
  return { oid, schemaOid, name, kind, columns, primaryKey, description, options }

end Relation

namespace TriggerMode

def code : TriggerMode → String
  | .origin => "O"
  | .always => "A"
  | .replica => "R"
  | .disabled => "D"

def toJson (m : TriggerMode) : Json := .string m.code

def read? (d : δ) : Option TriggerMode :=
  choice? [("O", .origin), ("A", .always), ("R", .replica), ("D", .disabled)] d

end TriggerMode

namespace Trigger

def toJson (t : Trigger) : Json :=
  .object [("description", .option .string t.description), ("function", .string t.function),
    ("mode", t.mode.toJson), ("name", .string t.name), ("oid", .uint32 t.oid),
    ("table", t.table.toJson), ("table_oid", .uint32 t.tableOid)]

def read? (d : δ) : Option Trigger := do
  let f ← Fields.read? ["oid", "table_oid", "name", "table", "function", "mode", "description"] d
  let oid ← f.required? "oid" uint32?
  let tableOid ← f.required? "table_oid" uint32?
  let name ← f.required? "name" string?
  let table ← f.required? "table" QualifiedName.read?
  let function ← f.required? "function" string?
  let mode ← f.required? "mode" TriggerMode.read?
  let description ← f.optional? "description" string?
  return { oid, tableOid, name, table, function, mode, description }

end Trigger

namespace ResultColumn

def toJson (c : ResultColumn) : Json :=
  .object [("is_primary_key", .bool c.isPrimaryKey), ("name", .string c.name),
    ("not_null", .bool c.notNull), ("type_name", .string c.typeName)]

def read? (d : δ) : Option ResultColumn := do
  let f ← Fields.read? ["name", "type_name", "not_null", "is_primary_key"] d
  let name ← f.required? "name" string?
  let typeName ← f.required? "type_name" string?
  let notNull ← f.required? "not_null" bool?
  let isPrimaryKey ← f.required? "is_primary_key" bool?
  return { name, typeName, notNull, isPrimaryKey }

end ResultColumn

end DbConsole
