import DbConsole.Catalog.Basic
import DbConsole.Query.Plan
import DbConsole.Query.Stream

namespace DbConsole.Catalog

def reach (c : Catalog) (p : DatabasePath) : Except CatalogError Unit := do
  let server ← c.server p.group p.server
  if !server.available then
    throw (.connectionFailed (.notAccepting server.name))
  if (server.databases.find? p.database).isNone then
    throw (.databaseNotFound p.database)

def select (c : Catalog) (p : DatabasePath) (q : Select) : Except CatalogError (List Row) := do
  let db ← c.database p
  let r ← db.relation q.relationOid
  if r.relation.kind = .materializedView ∧ !r.populated then
    throw (.refused (.notPopulated r.relation.name.name))
  let plan ← Plan.resolve r.relation.columns q
  return plan.apply r.rows

/-- What a query produces: its rows in batches, or one error. -/
def stream (c : Catalog) (p : DatabasePath) (q : Select) (batchSize : Nat) : List StreamEvent :=
  match c.select p q with
  | .ok rows => (batches batchSize rows).map .batch
  | .error e => [.error e]

end DbConsole.Catalog
