import DbConsole.Proofs.Catalog.Lookup

namespace DbConsole

def Catalog.RelationDraft.relation (d : RelationDraft) (oid schemaOid : Oid) : Relation :=
  { oid, schemaOid, name := ⟨d.schema, d.name⟩, kind := d.kind, columns := d.finalColumns
    primaryKey := d.primaryKey, description := none, options := .empty }

def Relation.newTrigger (table : Relation) (oid tableOid : Oid) (name function : String) :
    Trigger :=
  { oid, tableOid, name, table := table.name, function, mode := .origin, description := none }

inductive Database.Grows (oid : Oid) (db : Database) : Database → Prop where
  | schema (name : String) (hn : ¬(db.schemaOid name).isOk) :
    Grows oid db { db with schemas := db.schemas.insert oid name }
  | relation (d : Catalog.RelationDraft) (schemaOid : Oid) (populated : Bool)
    (hs : db.schemaOid d.schema = .ok schemaOid)
    (hn : ∀ r ∈ db.relations.values, r.relation.schemaOid = schemaOid →
      r.relation.name.name ≠ d.name)
    (hk : d.missingKey? = none) :
    Grows oid db (db.putStored oid ⟨d.relation oid schemaOid, [], populated⟩)
  | trigger (tableOid : Oid) (table : StoredRelation) (name function : String)
    (ht : db.relations.find? tableOid = some table) (hk : table.relation.kind = .table)
    (hn : ¬db.triggerNameTaken tableOid name none) :
    Grows oid db (db.putTrigger oid (table.relation.newTrigger oid tableOid name function))

/-- Objects of a database that get new contents or another description. -/
inductive Database.Alters (db : Database) : Database → Prop where
  | refresh (oid : Oid) (r : StoredRelation) (rows : List Row)
    (hr : db.relations.find? oid = some r) (hk : r.relation.kind = .materializedView) :
    Alters db (db.putStored oid { r with rows, populated := true })
  | insert (oid : Oid) (r r' : StoredRelation) (rows : List Row)
    (hr : db.relations.find? oid = some r) (hi : r.insert rows = .ok r') :
    Alters db (db.putStored oid r')
  | execute (statements : List Statement) (db' : Database)
    (hd : db.applyAll statements = .ok db') : Alters db db'

inductive Database.Fills (db : Database) : Database → Prop where
  | refresh (oid : Oid) (r : StoredRelation) (rows : List Row)
    (hr : db.relations.find? oid = some r) (hk : r.relation.kind = .materializedView) :
    Fills db (db.putStored oid { r with rows, populated := true })
  | insert (oid : Oid) (r r' : StoredRelation) (rows : List Row)
    (hr : db.relations.find? oid = some r) (hi : r.insert rows = .ok r') :
    Fills db (db.putStored oid r')

theorem Database.Fills.alters {db db' : Database} (h : db.Fills db') : db.Alters db' := by
  cases h with
  | refresh oid r rows hr hk => exact .refresh oid r rows hr hk
  | insert oid r r' rows hr hi => exact .insert oid r r' rows hr hi

namespace Catalog

/-- What an operation can make of a catalog that executes no statements. -/
inductive Builds (c : Catalog) : Catalog → Prop where
  | placeGroup (g : UInt32) : Builds c (c.placeGroup g)
  | placeServer (g s : UInt32) (servers : SortedMap UInt32 Server) (name : String)
    (hg : c.groups.find? g = some servers) :
    Builds c { c with groups := c.groups.insert g (servers.insert s ⟨name, true, .empty⟩) }
  | setAvailable (g s : UInt32) (server : Server) (available : Bool)
    (hs : c.server? g s = some server) :
    Builds c (c.modifyServer g s fun server => { server with available })
  | createDatabase (g s : UInt32) (server : Server) (name : String)
    (hs : c.server? g s = some server) :
    Builds c (c.advance.advance.putDatabase ⟨g, s, c.freshOid⟩ (.new name c.advance.freshOid))
  | grow (p : DatabasePath) (db db' : Database) (hp : c.database? p = some db)
    (hd : db.Grows c.freshOid db') : Builds c (c.advance.putDatabase p db')
  | fill (p : DatabasePath) (db db' : Database) (hp : c.database? p = some db)
    (hd : db.Fills db') : Builds c (c.putDatabase p db')

/-- What one operation can make of a catalog. -/
inductive Change (c : Catalog) : Catalog → Prop where
  | placeGroup (g : UInt32) : Change c (c.placeGroup g)
  | placeServer (g s : UInt32) (servers : SortedMap UInt32 Server) (name : String)
    (hg : c.groups.find? g = some servers) :
    Change c { c with groups := c.groups.insert g (servers.insert s ⟨name, true, .empty⟩) }
  | setAvailable (g s : UInt32) (server : Server) (available : Bool)
    (hs : c.server? g s = some server) :
    Change c (c.modifyServer g s fun server => { server with available })
  | createDatabase (g s : UInt32) (server : Server) (name : String)
    (hs : c.server? g s = some server) :
    Change c (c.advance.advance.putDatabase ⟨g, s, c.freshOid⟩ (.new name c.advance.freshOid))
  | grow (p : DatabasePath) (db db' : Database) (hp : c.database? p = some db)
    (hd : db.Grows c.freshOid db') : Change c (c.advance.putDatabase p db')
  | alter (p : DatabasePath) (db db' : Database) (hp : c.database? p = some db)
    (hd : db.Alters db') : Change c (c.putDatabase p db')

variable {c c' : Catalog} {p : DatabasePath}

theorem builds_of_placeServer {g s : UInt32} {name : String}
    (h : c.placeServer g s name = .ok c') : c.Builds c' := by
  obtain ⟨servers, hg, h⟩ := bind_eq_ok.mp h
  cases h
  exact .placeServer g s servers name (group_eq_ok.mp hg)

theorem builds_of_setAvailable {g s : UInt32} {available : Bool}
    (h : c.setAvailable g s available = .ok c') : c.Builds c' := by
  obtain ⟨server, hs, h⟩ := bind_eq_ok.mp h
  cases h
  exact .setAvailable g s server available (server_eq_ok.mp hs)

theorem builds_of_createDatabase {g s : UInt32} {name : String} {r : UInt32 × Catalog}
    (h : c.createDatabase g s name = .ok r) : c.Builds r.2 := by
  obtain ⟨server, hs, h⟩ := bind_eq_ok.mp h
  cases h
  exact .createDatabase g s server name (server_eq_ok.mp hs)

theorem builds_of_createSchema {name : String} {r : Oid × Catalog}
    (h : c.createSchema p name = .ok r) : c.Builds r.2 := by
  obtain ⟨db, hp, h⟩ := bind_eq_ok.mp h
  dsimp only at h
  split at h
  · cases h
  · next hn =>
    cases h
    exact .grow p db _ (database_eq_ok.mp hp) (.schema name hn)

theorem builds_of_createStored {d : RelationDraft} {populated : Bool} {r : Oid × Catalog}
    (h : c.createStored p d populated = .ok r) : c.Builds r.2 := by
  obtain ⟨db, hp, h⟩ := bind_eq_ok.mp h
  obtain ⟨schemaOid, hs, h⟩ := bind_eq_ok.mp h
  dsimp only at h
  split at h
  · cases h
  next hn =>
  split at h
  · cases h
  next hk =>
  cases h
  have hk' : d.missingKey? = none := Option.eq_none_iff_forall_ne_some.mpr hk
  refine .grow p db _ (database_eq_ok.mp hp) (.relation d schemaOid populated hs ?_ hk')
  intro r hr hso hrn
  apply hn
  exact List.any_eq_true.mpr ⟨r, hr, by simp [hso, hrn]⟩

theorem builds_of_refresh {oid : Oid} {rows : List Row} (h : c.refresh p oid rows = .ok c') :
    c.Builds c' := by
  obtain ⟨db, hp, h⟩ := bind_eq_ok.mp h
  obtain ⟨r, hr, h⟩ := bind_eq_ok.mp h
  cases h
  obtain ⟨hf, hk⟩ := Database.relationAs_eq_ok.mp hr
  exact .fill p db _ (database_eq_ok.mp hp) (.refresh oid r rows hf hk)

theorem builds_of_insert {oid : Oid} {rows : List Row} {r : Nat × Catalog}
    (h : c.insert p oid rows = .ok r) : c.Builds r.2 := by
  obtain ⟨db, hp, h⟩ := bind_eq_ok.mp h
  obtain ⟨s, hs, h⟩ := bind_eq_ok.mp h
  obtain ⟨s', hi, h⟩ := bind_eq_ok.mp h
  cases h
  exact .fill p db _ (database_eq_ok.mp (mapError_eq_ok.mp hp))
    (.insert oid s s' rows (Database.relation_eq_ok.mp (mapError_eq_ok.mp hs)) hi)

theorem builds_of_createTrigger {tableOid : Oid} {name function : String} {r : Oid × Catalog}
    (h : c.createTrigger p tableOid name function = .ok r) : c.Builds r.2 := by
  obtain ⟨db, hp, h⟩ := bind_eq_ok.mp h
  obtain ⟨table, ht, h⟩ := bind_eq_ok.mp h
  dsimp only at h
  split at h
  · cases h
  next hk =>
  split at h
  · cases h
  next hn =>
  cases h
  exact .grow p db _ (database_eq_ok.mp hp)
    (.trigger tableOid table name function (Database.relation_eq_ok.mp ht) (not_not.mp hk) hn)

theorem Builds.change (h : c.Builds c') : c.Change c' := by
  cases h with
  | placeGroup g => exact .placeGroup g
  | placeServer g s servers name hg => exact .placeServer g s servers name hg
  | setAvailable g s server available hs => exact .setAvailable g s server available hs
  | createDatabase g s server name hs => exact .createDatabase g s server name hs
  | grow p db _ hp hd => exact .grow p db _ hp hd
  | fill p db _ hp hd => exact .alter p db _ hp hd.alters

theorem change_of_execute {statements : List Statement}
    (h : c.execute p statements = .ok c') : c.Change c' := by
  obtain ⟨db, hp, h⟩ := bind_eq_ok.mp h
  obtain ⟨db', hd, h⟩ := bind_eq_ok.mp h
  cases h
  exact .alter p db _ (database_eq_ok.mp hp) (.execute statements db' hd)

/-- A change that executes no statements, or statements that are executed. -/
theorem Change.cases (h : c.Change c') : c.Builds c' ∨ ∃ p db db' statements,
    c.database? p = some db ∧ db.applyAll statements = .ok db' ∧ c' = c.putDatabase p db' := by
  cases h with
  | placeGroup g => exact .inl (.placeGroup g)
  | placeServer g s servers name hg => exact .inl (.placeServer g s servers name hg)
  | setAvailable g s server available hs => exact .inl (.setAvailable g s server available hs)
  | createDatabase g s server name hs => exact .inl (.createDatabase g s server name hs)
  | grow p db _ hp hd => exact .inl (.grow p db _ hp hd)
  | alter p db _ hp hd =>
    cases hd with
    | refresh oid r rows hr hk => exact .inl (.fill p db _ hp (.refresh oid r rows hr hk))
    | insert oid r r' rows hr hi => exact .inl (.fill p db _ hp (.insert oid r r' rows hr hi))
    | execute statements _ hd => exact .inr ⟨p, db, _, statements, hp, hd, rfl⟩

theorem database?_of_builds (h : c.Builds c') {q : DatabasePath} {db' : Database}
    (hq : c'.database? q = some db') :
    c.database? q = some db' ∨
      (q.database = c.freshOid ∧ ∃ name, db' = .new name c.advance.freshOid) ∨
      ∃ db, c.database? q = some db ∧ (db.Grows c.freshOid db' ∨ db.Fills db') := by
  cases h with
  | placeGroup g =>
    simp only [database?, server?_placeGroup] at hq
    split at hq
    · cases hq
    · exact .inl hq
  | placeServer g s servers name hg =>
    rw [database?_placeServer hg] at hq
    split at hq
    · cases hq
    · exact .inl hq
  | setAvailable g s server available hs =>
    rw [database?_setAvailable] at hq
    exact .inl hq
  | createDatabase g s server name hs =>
    rw [database?_putDatabase hs] at hq
    split at hq
    · next he =>
      subst q
      exact .inr (.inl ⟨rfl, name, (Option.some.inj hq).symm⟩)
    · exact .inl hq
  | grow p db _ hp hd =>
    obtain ⟨server, hs, _⟩ := server?_of_database? hp
    rw [database?_putDatabase (c := c.advance) hs] at hq
    split at hq
    · next he =>
      cases hq
      exact .inr (.inr ⟨db, he ▸ hp, .inl hd⟩)
    · exact .inl hq
  | fill p db _ hp hd =>
    obtain ⟨server, hs, _⟩ := server?_of_database? hp
    rw [database?_putDatabase hs] at hq
    split at hq
    · next he =>
      cases hq
      exact .inr (.inr ⟨db, he ▸ hp, .inr hd⟩)
    · exact .inl hq

theorem database?_of_putDatabase {db₀ db₁ db' : Database} {q : DatabasePath}
    (hp : c.database? p = some db₀) (hq : (c.putDatabase p db₁).database? q = some db') :
    (q ≠ p ∧ c.database? q = some db') ∨ (q = p ∧ db' = db₁) := by
  obtain ⟨server, hs, _⟩ := server?_of_database? hp
  rw [database?_putDatabase hs] at hq
  split at hq
  · next he => exact .inr ⟨he, (Option.some.inj hq).symm⟩
  · next hne => exact .inl ⟨hne, hq⟩

theorem database?_of_change (h : c.Change c') {q : DatabasePath} {db' : Database}
    (hq : c'.database? q = some db') :
    c.database? q = some db' ∨
      (q.database = c.freshOid ∧ ∃ name, db' = .new name c.advance.freshOid) ∨
      ∃ db, c.database? q = some db ∧ (db.Grows c.freshOid db' ∨ db.Alters db') := by
  rcases h.cases with hb | ⟨p, db, db₁, statements, hp, hd, rfl⟩
  · rcases database?_of_builds hb hq with hold | hnew | ⟨db, hdb, hg | hf⟩
    · exact .inl hold
    · exact .inr (.inl hnew)
    · exact .inr (.inr ⟨db, hdb, .inl hg⟩)
    · exact .inr (.inr ⟨db, hdb, .inr hf.alters⟩)
  · rcases database?_of_putDatabase hp hq with ⟨_, hold⟩ | ⟨rfl, rfl⟩
    · exact .inl hold
    · exact .inr (.inr ⟨db, hp, .inr (.execute statements db' hd)⟩)

/-- What holds of every database of a catalog, if it holds of a new one and is kept in one that
changes. -/
theorem forall_database_of_change {P : Database → Prop}
    (new : ∀ name publicOid, P (.new name publicOid))
    (grows : ∀ {oid : Oid} {db db' : Database}, P db → db.Grows oid db' → P db')
    (alters : ∀ {db db' : Database}, P db → db.Alters db' → P db')
    (hp : ∀ p db, c.database? p = some db → P db) (h : c.Change c') :
    ∀ p db, c'.database? p = some db → P db := by
  intro p db' hd
  rcases database?_of_change h hd with hold | ⟨_, name, rfl⟩ | ⟨db, hdb, hg | ha⟩
  · exact hp p db' hold
  · exact new name _
  · exact grows (hp p db hdb) hg
  · exact alters (hp p db hdb) ha

theorem standard_of_builds {P : Catalog → Prop} (empty : P .empty)
    (builds : ∀ {c c' : Catalog}, P c → c.Builds c' → P c') : P .standard := by
  have hg := builds empty (.placeGroup 1)
  have hs := builds hg (builds_of_placeServer
    (rfl : (Catalog.empty.placeGroup 1).placeServer 1 1 "PostgreSQL" = .ok _))
  exact builds hs (builds_of_createDatabase
    (rfl : Catalog.createDatabase _ 1 1 "postgres" = .ok _))

theorem standard_of_change {P : Catalog → Prop} (empty : P .empty)
    (change : ∀ {c c' : Catalog}, P c → c.Change c' → P c') : P .standard :=
  standard_of_builds empty fun h hb => change h hb.change

end Catalog

end DbConsole
