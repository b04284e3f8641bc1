import DbConsole.Update.Relation
import DbConsole.Update.Trigger
import DbConsole.Wire.Catalog

namespace DbConsole

open Document

variable {δ : Type} [Document δ]

namespace VacuumEntry

def toJson (e : VacuumEntry) : Json := .object [("name", .string e.name), ("value", e.value)]

def read? (d : δ) : Option VacuumEntry := do
  let f ← Fields.read? ["name", "value"] d
  let name ← f.required? "name" string?
  let value ← f.withDefault? "value" .null Document.toJson?
  return { name, value }

def readChanged? (d : δ) : Option (List VacuumEntry) := do
  let f ← Fields.read? ["changed"] d
  f.withDefault? "changed" [] (list? VacuumEntry.read?)

end VacuumEntry

def RelationUpdate.read? (d : δ) : Option RelationUpdate := do
  let f ← Fields.read? ["description", "autovacuum_custom", "autovacuum_enabled",
    "toast_autovacuum", "toast_autovacuum_enabled", "vacuum_table", "vacuum_toast"] d
  let description ← f.optional? "description" string?
  let tableCustom ← f.optional? "autovacuum_custom" bool?
  let tableEnabled ← f.optional? "autovacuum_enabled" bool?
  let toastCustom ← f.optional? "toast_autovacuum" bool?
  let toastEnabled ← f.optional? "toast_autovacuum_enabled" bool?
  let tableChanged ← f.withDefault? "vacuum_table" [] VacuumEntry.readChanged?
  let toastChanged ← f.withDefault? "vacuum_toast" [] VacuumEntry.readChanged?
  return { description, table := ⟨tableCustom, tableEnabled, tableChanged⟩
           toast := ⟨toastCustom, toastEnabled, toastChanged⟩ }

def TriggerUpdate.read? (d : δ) : Option TriggerUpdate := do
  let f ← Fields.read? ["name", "description", "is_enable_trigger"] d
  let name ← f.optional? "name" string?
  let description ← f.optional? "description" string?
  let mode ← f.optional? "is_enable_trigger" TriggerMode.read?
  return { name, description, mode }

def RelationProperties.toJson (p : RelationProperties) : Json :=
  let r := p.relation
  .object [("autovacuum_custom", .bool p.table.custom),
    ("autovacuum_enabled", .option .bool p.table.enabled),
    ("columns", .array (r.columns.map (·.toJson))),
    ("description", .option .string r.description), ("kind", r.kind.toJson),
    ("name", .string r.name.name), ("oid", .uint32 r.oid),
    ("primary_key", .strings r.primaryKey), ("schema", .string r.name.schema),
    ("toast_autovacuum", .bool p.toast.custom),
    ("toast_autovacuum_enabled", .option .bool p.toast.enabled),
    ("vacuum_table", .array (p.table.entries.map (·.toJson))),
    ("vacuum_toast", .array (p.toast.entries.map (·.toJson)))]

def Trigger.properties (t : Trigger) : Json :=
  .object [("description", .option .string t.description), ("function", .string t.function),
    ("is_enable_trigger", t.mode.toJson), ("name", .string t.name), ("oid", .uint32 t.oid),
    ("table", .string t.table.sql)]

end DbConsole
