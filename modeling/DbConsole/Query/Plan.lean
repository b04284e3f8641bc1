import DbConsole.Catalog.Error
import DbConsole.Query.Comparison
import DbConsole.Sql.Select

namespace DbConsole

namespace Comparator

/-- Whether a comparison with the outcome `o` meets the condition; incomparable operands never
do. -/
def accepts (c : Comparator) (o : Option Ordering) : Bool :=
  match c, o with
  | .eq, some o => o = .eq
  | .ne, some o => o ≠ .eq
  | .lt, some o => o = .lt
  | .le, some o => o ≠ .gt
  | .gt, some o => o = .gt
  | .ge, some o => o ≠ .lt
  | _, _ => false

def holds (c : Comparator) (cell operand : Json) : Bool :=
  match c with
  | .isNull => cell.isNull
  | .isNotNull => !cell.isNull
  | c => c.accepts (cell.compare? operand)

end Comparator

/-- The cell at a place of a row; beyond the end of a short row cells are null. -/
def Row.cell (row : Row) (place : Nat) : Json := row[place]?.getD .null

structure Plan where
  filter : List (Nat × Condition)
  order : List (Nat × Bool)
  limit : Option UInt64

namespace Plan

def place (columns : List Column) (name : String) : Except CatalogError Nat :=
  match columns.findIdx? (·.name = name) with
  | some i => .ok i
  | none => .error (.undefinedColumn name)

def resolve (columns : List Column) (q : Select) : Except CatalogError Plan := do
  let filter ← q.filter.mapM fun c => return (← place columns c.column, c)
  let order ← q.order.mapM fun k => return (← place columns k.column, k.descending)
  return ⟨filter, order, q.limit⟩

def accepts (p : Plan) (row : Row) : Bool :=
  p.filter.all fun (i, c) => c.comparator.holds (row.cell i) c.value

def compareRows (order : List (Nat × Bool)) (a b : Row) : Ordering :=
  match order with
  | [] => .eq
  | (i, descending) :: rest =>
    let o := (a.cell i).sortCompare (b.cell i)
    (if descending then o.swap else o).then (compareRows rest a b)

def apply (p : Plan) (rows : List Row) : List Row :=
  let kept := rows.filter p.accepts
  let sorted := kept.mergeSort fun a b => (compareRows p.order a b).isLE
  match p.limit with
  | some n => sorted.take n.toNat
  | none => sorted

end Plan

end DbConsole
