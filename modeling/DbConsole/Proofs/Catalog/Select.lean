import DbConsole.Proofs.Catalog.Query
import DbConsole.Proofs.Query.Evaluation

namespace DbConsole

def Select.columns (q : Select) : List String := q.filter.map (·.column) ++ q.order.map (·.column)

def undefined? (columns : List Column) (names : List String) : Option String :=
  names.find? fun name => columns.all (·.name ≠ name)

namespace Plan

variable {columns : List Column} {name : String} {q : Select}

theorem place_undefined (h : columns.all (·.name ≠ name) = true) :
    place columns name = .error (.undefinedColumn name) := by
  have hnone : columns.findIdx? (·.name = name) = none := by
    simpa [List.findIdx?_eq_none_iff] using h
  simp only [place, hnone]

theorem exists_column (h : columns.all (·.name ≠ name) = false) :
    ∃ column ∈ columns, column.name = name := by
  simpa using h

theorem columns_of_undefined? {names : List String} (h : undefined? columns names = none) :
    ∀ name ∈ names, ∃ column ∈ columns, column.name = name := fun name hm =>
  exists_column (by simpa using List.find?_eq_none.mp h name hm)

theorem mapM_place_undefined {α β : Type} {column : α → String} (make : Nat → α → β) {l : List α}
    (h : undefined? columns (l.map column) = some name) :
    (l.mapM fun a => do return make (← place columns (column a)) a) =
      .error (.undefinedColumn name) := by
  induction l with
  | nil => cases h
  | cons a rest ih =>
    rw [undefined?, List.map_cons, List.find?_cons] at h
    rw [List.mapM_cons]
    split at h
    · next hn =>
      cases h
      rw [place_undefined hn]
      rfl
    · next hn =>
      obtain ⟨i, hi⟩ := place_eq_ok (exists_column hn)
      rw [hi, ih h]
      rfl

theorem exists_mapM_place {α β : Type} {column : α → String} (make : Nat → α → β) {l : List α}
    (h : undefined? columns (l.map column) = none) :
    ∃ bs, (l.mapM fun a => do return make (← place columns (column a)) a) = .ok bs := by
  refine exists_mapM_eq_ok fun a ha => ?_
  obtain ⟨i, hi⟩ := place_eq_ok (columns_of_undefined? h _ (List.mem_map_of_mem ha))
  exact ⟨make i a, bind_eq_ok.mpr ⟨i, hi, rfl⟩⟩

theorem resolve_undefined (h : undefined? columns q.columns = some name) :
    resolve columns q = .error (.undefinedColumn name) := by
  rw [undefined?, Select.columns, List.find?_append, Option.or_eq_some_iff] at h
  rcases h with hf | ⟨hf, ho⟩
  · have herror := mapM_place_undefined (fun i c => (i, c)) hf
    simp only [resolve, herror]
    rfl
  · obtain ⟨filter, hfilter⟩ := exists_mapM_place (fun i c => (i, c)) hf
    have herror := mapM_place_undefined (fun i (k : SortKey) => (i, k.descending)) ho
    simp only [resolve, hfilter, herror]
    rfl

theorem resolve_defined (h : undefined? columns q.columns = none) :
    ∃ plan, resolve columns q = .ok plan := by
  have hall := columns_of_undefined? h
  exact resolve_eq_ok
    (fun c hc => hall _ (List.mem_append_left _ (List.mem_map_of_mem hc)))
    fun k hk => hall _ (List.mem_append_right _ (List.mem_map_of_mem hk))

theorem sortedBy_of_stableSort {keys : List SortKey} {order : List (Nat × Bool)}
    {rows sorted : List Row} (h : Locates columns keys order)
    (hs : StableSort (Precedes columns keys) (alike columns keys) rows sorted) :
    SortedBy (compareRows order) rows sorted where
  perm := hs.perm
  ordered := hs.ordered.imp fun hab hlt => hab ((compareRows_eq_lt h).mp hlt)
  stable a := by
    have halike : alike columns keys a = fun b => decide (compareRows order a b = .eq) := by
      funext b
      rw [Bool.eq_iff_iff, decide_eq_true_iff, compareRows_eq_eq h]
    rw [← halike, hs.stable a]

end Plan

namespace Catalog

variable {c : Catalog} {p : DatabasePath} {q : Select} {result : Except CatalogError (List Row)}

/-- What a query comes to. The conditions have an order: each supposes that what comes before it is
not amiss. -/
inductive Answers (c : Catalog) (p : DatabasePath) (q : Select) :
    Except CatalogError (List Row) → Prop where
  | noGroup (h : c.groups.find? p.group = none) : Answers c p q (.error (.groupNotFound p.group))
  | noServer (servers : SortedMap UInt32 Server) (hg : c.groups.find? p.group = some servers)
    (h : servers.find? p.server = none) : Answers c p q (.error (.serverNotFound p.server))
  | noDatabase (server : Server) (hs : c.server? p.group p.server = some server)
    (h : server.databases.find? p.database = none) :
    Answers c p q (.error (.databaseNotFound p.database))
  | noRelation (db : Database) (hd : c.database? p = some db)
    (h : db.relations.find? q.relationOid = none) :
    Answers c p q (.error (.objectNotFound q.relationOid))
  | notPopulated (db : Database) (stored : StoredRelation) (hd : c.database? p = some db)
    (hr : db.relations.find? q.relationOid = some stored)
    (hk : stored.relation.kind = .materializedView) (h : stored.populated = false) :
    Answers c p q (.error (.refused (.notPopulated stored.relation.name.name)))
  | noColumn (db : Database) (stored : StoredRelation) (name : String)
    (hd : c.database? p = some db) (hr : db.relations.find? q.relationOid = some stored)
    (hp : stored.relation.kind = .materializedView → stored.populated = true)
    (h : undefined? stored.relation.columns q.columns = some name) :
    Answers c p q (.error (.undefinedColumn name))
  | rows (db : Database) (stored : StoredRelation) (sorted : List Row)
    (hd : c.database? p = some db) (hr : db.relations.find? q.relationOid = some stored)
    (hp : stored.relation.kind = .materializedView → stored.populated = true)
    (hc : undefined? stored.relation.columns q.columns = none)
    (h : StableSort (Precedes stored.relation.columns q.order)
      (alike stored.relation.columns q.order)
      (stored.rows.filter (·.meets stored.relation.columns q.filter)) sorted) :
    Answers c p q (.ok (cut q.limit sorted))

theorem relation_missing {db : Database} {oid : Oid} (h : db.relations.find? oid = none) :
    db.relation oid = .error (.objectNotFound oid) := by
  simp only [Database.relation, h]

variable {db : Database} {stored : StoredRelation}

theorem select_noRelation (hd : c.database? p = some db)
    (h : db.relations.find? q.relationOid = none) :
    c.select p q = .error (.objectNotFound q.relationOid) := by
  unfold select
  rw [database_eq_ok.mpr hd]
  change (db.relation q.relationOid >>= _) = _
  rw [relation_missing h]
  rfl

theorem select_noColumn {name : String} (hd : c.database? p = some db)
    (hr : db.relations.find? q.relationOid = some stored)
    (hp : stored.relation.kind = .materializedView → stored.populated = true)
    (h : undefined? stored.relation.columns q.columns = some name) :
    c.select p q = .error (.undefinedColumn name) := by
  have hfilled : ¬(stored.relation.kind = .materializedView ∧ (!stored.populated) = true) :=
    fun hn => by simp [hp hn.1] at hn
  unfold select
  rw [database_eq_ok.mpr hd]
  change (db.relation q.relationOid >>= _) = _
  rw [Database.relation_eq_ok.mpr hr]
  change (if _ then _ else _) = _
  rw [if_neg hfilled, Plan.resolve_undefined h]
  rfl

theorem select_eq_of_answers (h : c.Answers p q result) : c.select p q = result := by
  cases h with
  | noGroup h =>
    refine select_error ?_
    simp only [database_eq, h]
  | noServer servers hg h =>
    refine select_error ?_
    simp only [database_eq, hg, h]
  | noDatabase server hs h =>
    obtain ⟨servers, hg, hs⟩ := Option.bind_eq_some_iff.mp hs
    refine select_error ?_
    simp only [database_eq, hg, hs, h]
  | noRelation db hd h => exact select_noRelation hd h
  | notPopulated db stored hd hr hk h =>
    exact select_unpopulated (database_eq_ok.mpr hd) (Database.relation_eq_ok.mpr hr) hk h
  | noColumn db stored name hd hr hp h => exact select_noColumn hd hr hp h
  | rows db stored sorted hd hr hp hc h =>
    obtain ⟨plan, hplan⟩ := Plan.resolve_defined hc
    have hs := Plan.sortedBy_of_stableSort (Plan.resolve_inv hplan).2.1 h
    rw [select_eq_ok (database_eq_ok.mpr hd) (Database.relation_eq_ok.mpr hr) hp hplan,
      Plan.apply_of_sortedBy hplan hs]

theorem answers_stored (hd : c.database? p = some db)
    (hr : db.relations.find? q.relationOid = some stored) : ∃ result, c.Answers p q result := by
  by_cases hp : stored.relation.kind = .materializedView → stored.populated = true
  · cases hc : undefined? stored.relation.columns q.columns with
    | some name => exact ⟨_, .noColumn db stored name hd hr hp hc⟩
    | none =>
      obtain ⟨plan, hplan⟩ := Plan.resolve_defined hc
      have hs : SortedBy (Plan.compareRows plan.order)
          (stored.rows.filter (·.meets stored.relation.columns q.filter)) _ := .mergeSort _
      exact ⟨_, .rows db stored _ hd hr hp hc
        (Plan.stableSort_of_sortedBy (Plan.resolve_inv hplan).2.1 hs)⟩
  · obtain ⟨hk, hu⟩ := Classical.not_imp.mp hp
    exact ⟨_, .notPopulated db stored hd hr hk (Bool.eq_false_iff.mpr hu)⟩

theorem exists_answers (c : Catalog) (p : DatabasePath) (q : Select) :
    ∃ result, c.Answers p q result := by
  cases hg : c.groups.find? p.group with
  | none => exact ⟨_, .noGroup hg⟩
  | some servers =>
    cases hv : servers.find? p.server with
    | none => exact ⟨_, .noServer servers hg hv⟩
    | some server =>
      have hs : c.server? p.group p.server = some server :=
        Option.bind_eq_some_iff.mpr ⟨servers, hg, hv⟩
      cases hd : server.databases.find? p.database with
      | none => exact ⟨_, .noDatabase server hs hd⟩
      | some db =>
        have hdb : c.database? p = some db := Option.bind_eq_some_iff.mpr ⟨server, hs, hd⟩
        cases hr : db.relations.find? q.relationOid with
        | none => exact ⟨_, .noRelation db hdb hr⟩
        | some stored => exact answers_stored hdb hr

theorem answers_iff_select : c.Answers p q result ↔ c.select p q = result := by
  refine ⟨select_eq_of_answers, ?_⟩
  rintro rfl
  obtain ⟨result, h⟩ := exists_answers c p q
  rwa [select_eq_of_answers h]

end Catalog

end DbConsole
