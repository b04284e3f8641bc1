import DbConsole.Sql.Statement
import DbConsole.Update.Vacuum

namespace DbConsole

structure RelationUpdate where
  description : Option String
  table : VacuumRequest
  toast : VacuumRequest
deriving Inhabited

namespace RelationUpdate

def commentStatements (u : RelationUpdate) (r : Relation) : List Statement :=
  u.description.toList.map fun text =>
    .comment (.relation r.oid r.kind r.name) (if text = "" then none else some text)

def optionStatements (r : Relation) (c : OptionChanges) : Except BadRequest (List Statement) := do
  if c.set ≠ [] ∧ !r.kind.hasParameters then
    throw (.noStorage r.kind r.name.name)
  let set := if c.set = [] then [] else [Statement.setOptions r.oid r.kind r.name c.set]
  let reset := if c.reset = [] then [] else [Statement.resetOptions r.oid r.kind r.name c.reset]
  return set ++ reset

def statements (u : RelationUpdate) (r : Relation) : Except BadRequest (List Statement) := do
  let table ← u.table.changes .table
  let toast ← u.toast.changes .toast
  let options ← optionStatements r (table ++ toast)
  return u.commentStatements r ++ options

end RelationUpdate

structure VacuumProperties where
  custom : Bool
  enabled : Option Bool
  entries : List VacuumEntry

namespace VacuumProperties

def ofOptions (options : StorageOptions) (g : VacuumGroup) (start : String) : VacuumProperties where
  custom := options.keys.any (·.startsWith start)
  enabled := (options.find? g.switch).map (· = "true")
  entries := g.parameters.map fun p => ⟨p, .option .string (options.find? (g.optionName p))⟩

end VacuumProperties

structure RelationProperties where
  relation : Relation
  table : VacuumProperties
  toast : VacuumProperties

namespace RelationProperties

def ofRelation (r : Relation) : RelationProperties where
  relation := r
  table := .ofOptions r.options .table "autovacuum_"
  toast := .ofOptions r.options .toast VacuumGroup.toast.mark

end RelationProperties

end DbConsole
