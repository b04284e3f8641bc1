import DbConsole.Catalog.Database
import DbConsole.Json.Printer

namespace DbConsole

namespace Relation

def keyPlaces (r : Relation) : List Nat :=
  r.primaryKey.filterMap fun k => r.columns.findIdx? (·.name = k)

/-- The texts of a row at the places of the primary key, unless the row is too short. -/
def key? (r : Relation) (row : Row) : Option (List String) :=
  r.keyPlaces.mapM fun i => row[i]?.map (·.text)

def emptyColumn? (r : Relation) (row : Row) : Option Column :=
  ((r.columns.zip row).find? fun (c, v) => c.notNull && v.isNull).map (·.1)

end Relation

inductive InsertError where
  | refused (e : CatalogError)
  | shortStoredRow

namespace StoredRelation

/-- The key of a new row, if the row may be added beside rows with the keys `taken`. -/
def accept (r : Relation) (taken : List (List String)) (row : Row) :
    Except Refusal (List String) := do
  if row.length ≠ r.columns.length then
    throw (.wrongLength row.length r.name.name r.columns.length)
  if let some c := r.emptyColumn? row then
    throw (.nullValue c.name)
  let key := (r.key? row).getD []
  if r.keyPlaces ≠ [] ∧ key ∈ taken then
    throw (.duplicateKey r.name.name)
  return key

def acceptAll (r : Relation) (taken : List (List String)) : List Row → Except Refusal Unit
  | [] => return
  | row :: rest => do
    let key ← accept r taken row
    acceptAll r (key :: taken) rest

/-- Adds rows after those stored, all of them or none. Every row must fill all columns, leave no
column empty that must not be, and have a primary key of its own; key values are compared by their
JSON texts. -/
def insert (s : StoredRelation) (rows : List Row) : Except InsertError StoredRelation :=
  match s.rows.mapM s.relation.key? with
  | none => .error .shortStoredRow
  | some taken =>
    match acceptAll s.relation taken rows with
    | .error refusal => .error (.refused (.refused refusal))
    | .ok () => .ok { s with rows := s.rows ++ rows }

end StoredRelation

end DbConsole
