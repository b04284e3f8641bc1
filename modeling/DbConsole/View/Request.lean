import DbConsole.View.Error

namespace DbConsole

structure ViewRequest where
  target : Target
  mode : ViewMode
  filter : List Condition
deriving Inhabited

namespace ViewRequest

/-- Conditions are given in the mode for them and in no other. -/
def checkFilter (mode : ViewMode) (filter : List Condition) : Except FilterFailure Unit :=
  match mode, filter with
  | .filteredRows, [] => .error .missing
  | .filteredRows, _ => .ok ()
  | _, [] => .ok ()
  | _, _ => .error .unexpected

/-- The sort keys: the primary key, descending for the last rows. Where first or last rows are
wanted and there is no primary key, all columns take its place. -/
def sortKeys (mode : ViewMode) (r : Relation) : List SortKey :=
  let keys := if r.primaryKey = [] then r.columns.map (·.name) else r.primaryKey
  match mode with
  | .firstRows => keys.map fun k => ⟨k, false⟩
  | .lastRows => keys.map fun k => ⟨k, true⟩
  | .allRows | .filteredRows => r.primaryKey.map fun k => ⟨k, false⟩

def select (request : ViewRequest) (r : Relation) : Except FilterFailure Select := do
  checkFilter request.mode request.filter
  if let some c := request.filter.find? fun c => (r.column? c.column).isNone then
    throw (.unknownColumn c.column)
  return { relationOid := r.oid, relation := r.name, filter := request.filter
           order := sortKeys request.mode r, limit := request.mode.limit }

def prepare (request : ViewRequest) (found : Except CatalogError Relation) :
    Except ViewError (Relation × Select) := do
  let r ← found.mapError .ofCatalog
  let wanted := request.target.kind
  if r.kind ≠ wanted.relationKind then
    throw (.invalidTarget (.otherKind r.name r.kind wanted))
  let q ← (request.select r).mapError .invalidFilter
  return (r, q)

end ViewRequest

end DbConsole
