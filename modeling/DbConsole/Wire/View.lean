import DbConsole.View.Request
import DbConsole.Wire.Sql

namespace DbConsole

open Document

variable {δ : Type} [Document δ]

namespace ObjectKind

def toJson (k : ObjectKind) : Json := .string k.text

def read? (d : δ) : Option ObjectKind :=
  choice? [("table", .table), ("view", .view), ("mview", .materializedView),
    ("foreign_table", .foreignTable)] d

end ObjectKind

namespace ViewMode

def code : ViewMode → String
  | .firstRows => "first_rows"
  | .lastRows => "last_rows"
  | .allRows => "all_rows"
  | .filteredRows => "filtered_rows"

def toJson (m : ViewMode) : Json := .string m.code

def read? (d : δ) : Option ViewMode :=
  choice? [("first_rows", .firstRows), ("last_rows", .lastRows), ("all_rows", .allRows),
    ("filtered_rows", .filteredRows)] d

end ViewMode

namespace Target

def toJson (t : Target) : Json :=
  .object [("database", t.database.toJson), ("kind", t.kind.toJson), ("object_id", .uint32 t.oid)]

end Target

def ViewRequest.readFilter? (d : δ) : Option (List Condition) := do
  let f ← Fields.read? ["filter"] d
  f.withDefault? "filter" [] (list? Condition.read?)

end DbConsole
