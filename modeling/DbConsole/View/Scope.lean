import DbConsole.Catalog.Error
import DbConsole.Sql.Select

namespace DbConsole

inductive ObjectKind where
  | table
  | view
  | materializedView
  | foreignTable
deriving DecidableEq, Inhabited

namespace ObjectKind

def relationKind : ObjectKind → RelationKind
  | .table => .table
  | .view => .view
  | .materializedView => .materializedView
  | .foreignTable => .foreignTable

def text : ObjectKind → String
  | .table => "table"
  | .view => "view"
  | .materializedView => "mview"
  | .foreignTable => "foreign_table"

def ofText? : String → Option ObjectKind
  | "table" => some .table
  | "view" => some .view
  | "mview" => some .materializedView
  | "foreign_table" => some .foreignTable
  | _ => none

end ObjectKind

inductive ViewMode where
  | firstRows
  | lastRows
  | allRows
  | filteredRows
deriving DecidableEq, Inhabited

namespace ViewMode

def ofCode? : UInt8 → Option ViewMode
  | 1 => some .firstRows
  | 2 => some .lastRows
  | 3 => some .allRows
  | 4 => some .filteredRows
  | _ => none

def rowsLimit : UInt64 := 100

def limit : ViewMode → Option UInt64
  | .firstRows | .lastRows => some rowsLimit
  | .allRows | .filteredRows => none

end ViewMode

structure Target where
  database : DatabasePath
  oid : Oid
  kind : ObjectKind
deriving DecidableEq, Inhabited

namespace Target

def text (t : Target) : String := s!"{t.kind.text} {t.database.text}/{t.oid}"

end Target

end DbConsole
