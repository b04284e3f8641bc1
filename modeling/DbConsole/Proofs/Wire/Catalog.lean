import DbConsole.Proofs.Json.Records
import DbConsole.Wire.Catalog

namespace DbConsole

open Document Json

@[simp] theorem RelationKind.read?_toJson (k : RelationKind) :
    RelationKind.read? k.toJson = some k := by
  cases k <;> rfl

@[simp] theorem TriggerMode.read?_toJson (m : TriggerMode) :
    TriggerMode.read? m.toJson = some m := by
  cases m <;> rfl

@[simp] theorem QualifiedName.read?_toJson (q : QualifiedName) :
    QualifiedName.read? q.toJson = some q := rfl

def DatabasePath.abridgement : Abridgement := .record [] []

theorem DatabasePath.read?_of_allows {p : DatabasePath} {j : Json}
    (h : abridgement.Allows p.toJson j) : DatabasePath.read? j = some p := by
  obtain ⟨f, hf, hp⟩ := Fields.read?_of_allows ["group", "server", "database"] h (by simp) (by simp)
  simp [DatabasePath.read?, hf, hp.kept "group" rfl rfl rfl, hp.kept "server" rfl rfl rfl,
    hp.kept "database" rfl rfl rfl]

def Column.abridgement : Abridgement := .record [("not_null", .bool false)] []

theorem Column.read?_of_allows {c : Column} {j : Json} (h : abridgement.Allows c.toJson j) :
    Column.read? j = some c := by
  obtain ⟨f, hf, hc⟩ := Fields.read?_of_allows ["name", "type_name", "not_null"] h
    (by simp) (by simp)
  have hnull : f.withDefault? "not_null" false bool? = some c.notNull :=
    hc.keptOrDefault "not_null" rfl (by simp) rfl rfl
  simp [Column.read?, hf, hnull, hc.kept "name" rfl rfl rfl, hc.kept "type_name" rfl rfl rfl]

def Relation.abridgement : Abridgement :=
  .record [("description", .null)] [("columns", .items Column.abridgement)]

theorem Relation.read?_of_allows {r : Relation} {j : Json} (h : abridgement.Allows r.toJson j) :
    Relation.read? j = some r := by
  obtain ⟨f, hf, hr⟩ := Fields.read?_of_allows ["oid", "schema_oid", "name", "kind", "columns",
    "primary_key", "description", "options"] h (by simp) (by simp)
  have hcolumns : f.required? "columns" (list? Column.read?) = some r.columns :=
    hr.required "columns" rfl rfl fun _ => list?_of_allows fun _ _ => Column.read?_of_allows
  have hdescription : f.optional? "description" string? = some r.description :=
    hr.optional "description" rfl rfl rfl string?_string nofun
  simp [Relation.read?, hf, hcolumns, hdescription, hr.kept "oid" rfl rfl rfl,
    hr.kept "schema_oid" rfl rfl rfl, hr.kept "name" rfl rfl rfl, hr.kept "kind" rfl rfl rfl,
    hr.kept "primary_key" rfl rfl rfl, hr.kept "options" rfl rfl rfl, StorageOptions.toJson,
    map?_object string?_string]

def Trigger.abridgement : Abridgement := .record [("description", .null)] []

theorem Trigger.read?_of_allows {t : Trigger} {j : Json} (h : abridgement.Allows t.toJson j) :
    Trigger.read? j = some t := by
  obtain ⟨f, hf, ht⟩ := Fields.read?_of_allows ["oid", "table_oid", "name", "table", "function",
    "mode", "description"] h (by simp) (by simp)
  have hdescription : f.optional? "description" string? = some t.description :=
    ht.optional "description" rfl rfl rfl string?_string nofun
  simp [Trigger.read?, hf, hdescription, ht.kept "oid" rfl rfl rfl,
    ht.kept "table_oid" rfl rfl rfl, ht.kept "name" rfl rfl rfl, ht.kept "table" rfl rfl rfl,
    ht.kept "function" rfl rfl rfl, ht.kept "mode" rfl rfl rfl]

def ResultColumn.abridgement : Abridgement := .record [] []

theorem ResultColumn.read?_of_allows {c : ResultColumn} {j : Json}
    (h : abridgement.Allows c.toJson j) : ResultColumn.read? j = some c := by
  obtain ⟨f, hf, hc⟩ := Fields.read?_of_allows ["name", "type_name", "not_null", "is_primary_key"] h
    (by simp) (by simp)
  simp [ResultColumn.read?, hf, hc.kept "name" rfl rfl rfl, hc.kept "type_name" rfl rfl rfl,
    hc.kept "not_null" rfl rfl rfl, hc.kept "is_primary_key" rfl rfl rfl]

end DbConsole
