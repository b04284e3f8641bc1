import DbConsole.Catalog.Relation
import DbConsole.Json.Printer

namespace DbConsole

inductive Comparator where
  | eq
  | ne
  | lt
  | le
  | gt
  | ge
  | isNull
  | isNotNull
deriving DecidableEq, Inhabited

namespace Comparator

def hasOperand : Comparator → Bool
  | .isNull | .isNotNull => false
  | _ => true

def sql : Comparator → String
  | .eq => "="
  | .ne => "<>"
  | .lt => "<"
  | .le => "<="
  | .gt => ">"
  | .ge => ">="
  | .isNull => "IS NULL"
  | .isNotNull => "IS NOT NULL"

end Comparator

/-- A JSON value as it stands in a statement; arrays and objects become literals of their text. -/
def Json.sql : Json → String
  | .null => "NULL"
  | .bool b => if b then "true" else "false"
  | .number n => n.text
  | .string s => Sql.literal s
  | j => Sql.literal j.text

structure Condition where
  column : String
  comparator : Comparator
  value : Json
deriving Inhabited

namespace Condition

def sql (c : Condition) : String :=
  let test := Sql.ident c.column ++ " " ++ c.comparator.sql
  if c.comparator.hasOperand then test ++ " " ++ c.value.sql else test

end Condition

structure SortKey where
  column : String
  descending : Bool
deriving DecidableEq, Inhabited

namespace SortKey

def ascending (column : String) : SortKey := ⟨column, false⟩

def sql (k : SortKey) : String :=
  Sql.ident k.column ++ if k.descending then " DESC" else " ASC"

end SortKey

structure Select where
  relationOid : Oid
  relation : QualifiedName
  filter : List Condition
  order : List SortKey
  limit : Option UInt64
deriving Inhabited

namespace Select

def filterSql : List Condition → String
  | [] => ""
  | c :: rest => " WHERE " ++ c.sql ++ String.join (rest.map fun c => " AND " ++ c.sql)

def orderSql : List SortKey → String
  | [] => ""
  | keys => " ORDER BY " ++ ", ".intercalate (keys.map (·.sql))

def limitSql : Option UInt64 → String
  | none => ""
  | some n => s!" LIMIT {n}"

def sql (q : Select) : String :=
  "SELECT * FROM " ++ q.relation.sql ++ filterSql q.filter ++ orderSql q.order ++ limitSql q.limit

end Select

end DbConsole
