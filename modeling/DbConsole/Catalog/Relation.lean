import DbConsole.Json.Basic
import DbConsole.Sql.Name

namespace DbConsole

abbrev Oid := UInt32

abbrev Row := List Json

/-- Where a database is found: server group, server, database. -/
structure DatabasePath where
  group : UInt32
  server : UInt32
  database : UInt32
deriving DecidableEq, Inhabited

namespace DatabasePath

def text (p : DatabasePath) : String :=
  s!"{p.group}/{p.server}/{p.database}"

end DatabasePath

inductive RelationKind where
  | table
  | view
  | materializedView
  | foreignTable
deriving DecidableEq, Inhabited

namespace RelationKind

def text : RelationKind → String
  | .table => "table"
  | .view => "view"
  | .materializedView => "materialized view"
  | .foreignTable => "foreign table"

def keyword : RelationKind → String
  | .table => "TABLE"
  | .view => "VIEW"
  | .materializedView => "MATERIALIZED VIEW"
  | .foreignTable => "FOREIGN TABLE"

def hasParameters : RelationKind → Bool
  | .table | .materializedView => true
  | .view | .foreignTable => false

end RelationKind

structure Column where
  name : String
  typeName : String
  notNull : Bool
deriving DecidableEq, Inhabited

/-- Storage parameters by name; those of the toast table begin with `toast.`. -/
abbrev StorageOptions := SortedMap String String

structure Relation where
  oid : Oid
  schemaOid : Oid
  name : QualifiedName
  kind : RelationKind
  columns : List Column
  primaryKey : List String
  description : Option String
  options : StorageOptions
deriving DecidableEq, Inhabited

namespace Relation

def column? (r : Relation) (name : String) : Option Column :=
  r.columns.find? (·.name = name)

end Relation

inductive TriggerMode where
  /-- Unless the session replays changes from another server. -/
  | origin
  | always
  /-- Only if the session replays changes from another server. -/
  | replica
  | disabled
deriving DecidableEq, Inhabited

namespace TriggerMode

def clause : TriggerMode → String
  | .origin => "ENABLE"
  | .always => "ENABLE ALWAYS"
  | .replica => "ENABLE REPLICA"
  | .disabled => "DISABLE"

end TriggerMode

structure Trigger where
  oid : Oid
  tableOid : Oid
  name : String
  table : QualifiedName
  function : String
  mode : TriggerMode
  description : Option String
deriving DecidableEq, Inhabited

end DbConsole
