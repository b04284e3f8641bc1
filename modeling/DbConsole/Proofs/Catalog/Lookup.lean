import DbConsole.Catalog.Change
import DbConsole.Catalog.Query
import DbConsole.Proofs.Maps
import Mathlib.Data.List.Forall2

namespace DbConsole

theorem bind_eq_ok {ε α β : Type} {x : Except ε α} {f : α → Except ε β} {b : β} :
    x >>= f = .ok b ↔ ∃ a, x = .ok a ∧ f a = .ok b := by
  rcases x with e | a
  · exact ⟨fun h => (nomatch h), fun ⟨_, h, _⟩ => (nomatch h)⟩
  · exact ⟨fun h => ⟨a, rfl, h⟩, fun ⟨_, h, hf⟩ => by cases h; exact hf⟩

theorem map_eq_ok {ε α β : Type} {f : α → β} {x : Except ε α} {b : β} :
    x.map f = .ok b ↔ ∃ a, x = .ok a ∧ f a = b := by
  cases x <;> simp [Except.map]

theorem mapError_eq_ok {ε δ α : Type} {f : ε → δ} {x : Except ε α} {a : α} :
    x.mapError f = .ok a ↔ x = .ok a := by
  refine ⟨fun h => ?_, fun h => h ▸ rfl⟩
  cases x with
  | error e => cases h
  | ok b =>
    cases h
    rfl

theorem mapM_eq_ok {ε α β : Type} {f : α → Except ε β} {l : List α} {bs : List β} :
    l.mapM f = .ok bs ↔ List.Forall₂ (fun a b => f a = .ok b) l bs := by
  induction l generalizing bs with
  | nil => simp [pure, Except.pure, eq_comm]
  | cons a rest ih =>
    rw [List.mapM_cons, bind_eq_ok, List.forall₂_cons_left_iff]
    simp only [bind_eq_ok, ih, pure, Except.pure, Except.ok.injEq]
    constructor
    · rintro ⟨b, hb, bs, hbs, rfl⟩
      exact ⟨b, bs, hb, hbs, rfl⟩
    · rintro ⟨b, bs, hb, hbs, rfl⟩
      exact ⟨b, hb, bs, hbs, rfl⟩

theorem toOption_eq_some {ε α : Type} {x : Except ε α} {a : α} :
    x.toOption = some a ↔ x = .ok a := by
  cases x <;> simp [Except.toOption]

theorem toOption_map_eq_some {ε α β : Type} {x : Except ε α} {f : α → β} {b : β} :
    x.toOption.map f = some b ↔ ∃ a, x = .ok a ∧ f a = b := by
  cases x <;> simp [Except.toOption]

namespace Catalog

def server? (c : Catalog) (g s : UInt32) : Option Server := (c.groups.find? g).bind (·.find? s)

def database? (c : Catalog) (p : DatabasePath) : Option Database :=
  (c.server? p.group p.server).bind (·.databases.find? p.database)

theorem group_eq_ok {c : Catalog} {g : UInt32} {servers : SortedMap UInt32 Server} :
    c.group g = .ok servers ↔ c.groups.find? g = some servers := by
  unfold group
  split <;> simp_all

theorem server_eq_ok {c : Catalog} {g s : UInt32} {server : Server} :
    c.server g s = .ok server ↔ c.server? g s = some server := by
  simp only [Catalog.server, server?, bind_eq_ok, group_eq_ok, Option.bind_eq_some_iff]
  refine exists_congr fun servers => and_congr_right fun _ => ?_
  split <;> simp_all [pure, Except.pure]

theorem database_eq_ok {c : Catalog} {p : DatabasePath} {db : Database} :
    c.database p = .ok db ↔ c.database? p = some db := by
  simp only [Catalog.database, database?, bind_eq_ok, server_eq_ok, Option.bind_eq_some_iff]
  refine exists_congr fun server => and_congr_right fun _ => ?_
  split <;> simp_all [pure, Except.pure]

theorem server?_placeGroup (c : Catalog) (g h s : UInt32) :
    (c.placeGroup g).server? h s = if h = g then none else c.server? h s := by
  by_cases hg : h = g
  · simp [server?, placeGroup, SortedMap.find?_insert, hg]
  · simp [server?, placeGroup, SortedMap.find?_insert, hg]

theorem server?_modifyServer (c : Catalog) (g s h t : UInt32) (f : Server → Server) :
    (c.modifyServer g s f).server? h t =
      if h = g ∧ t = s then (c.server? h t).map f else c.server? h t := by
  simp only [server?, modifyServer, SortedMap.find?_modify]
  by_cases hg : h = g
  · cases hf : c.groups.find? h with
    | none => simp
    | some servers => simp [hg, SortedMap.find?_modify]
  · simp [hg]

theorem database?_putDatabase {c : Catalog} {p : DatabasePath} {server : Server}
    (h : c.server? p.group p.server = some server) (db : Database) (q : DatabasePath) :
    (c.putDatabase p db).database? q = if q = p then some db else c.database? q := by
  obtain ⟨pg, ps, pd⟩ := p
  obtain ⟨qg, qs, qd⟩ := q
  simp only [database?, putDatabase, server?_modifyServer, DatabasePath.mk.injEq]
  by_cases hs : qg = pg ∧ qs = ps
  · obtain ⟨rfl, rfl⟩ := hs
    simp only at h
    simp [h, SortedMap.find?_insert]
  · have hd : ¬(qg = pg ∧ qs = ps ∧ qd = pd) := fun he => hs ⟨he.1, he.2.1⟩
    simp [hs, hd]

theorem database?_placeServer {c : Catalog} {g : UInt32} {servers : SortedMap UInt32 Server}
    (hg : c.groups.find? g = some servers) (s : UInt32) (name : String) (q : DatabasePath) :
    ({ c with groups := c.groups.insert g (servers.insert s ⟨name, true, .empty⟩) } :
      Catalog).database? q =
      if q.group = g ∧ q.server = s then none else c.database? q := by
  simp only [database?, server?, SortedMap.find?_insert]
  by_cases hq : q.group = g
  · by_cases hs : q.server = s
    · simp [hq, hs, SortedMap.find?_insert]
    · simp [hq, hs, hg, SortedMap.find?_insert]
  · simp [hq]

theorem database_eq (c : Catalog) (p : DatabasePath) : c.database p =
    match c.groups.find? p.group with
    | none => .error (.groupNotFound p.group)
    | some servers =>
      match servers.find? p.server with
      | none => .error (.serverNotFound p.server)
      | some server =>
        match server.databases.find? p.database with
        | none => .error (.databaseNotFound p.database)
        | some db => .ok db := by
  unfold database server group
  cases c.groups.find? p.group with
  | none => rfl
  | some servers =>
    cases hs : servers.find? p.server with
    | none =>
      simp only [bind, Except.bind, hs]
      rfl
    | some server =>
      simp only [bind, Except.bind, hs, pure, Except.pure]
      cases server.databases.find? p.database <;> rfl

theorem reach_eq (c : Catalog) (p : DatabasePath) : c.reach p =
    match c.groups.find? p.group with
    | none => .error (.groupNotFound p.group)
    | some servers =>
      match servers.find? p.server with
      | none => .error (.serverNotFound p.server)
      | some server =>
        if server.available = false then .error (.connectionFailed (.notAccepting server.name))
        else if server.databases.find? p.database = none then .error (.databaseNotFound p.database)
        else .ok () := by
  unfold reach server group
  cases c.groups.find? p.group with
  | none => rfl
  | some servers =>
    cases hs : servers.find? p.server with
    | none =>
      simp only [bind, Except.bind, hs]
      rfl
    | some server =>
      simp only [bind, Except.bind, hs, pure, Except.pure]
      cases server.available <;> cases server.databases.find? p.database <;> rfl

/-- The database at a path, on a server that lets connections in. -/
def Serves (c : Catalog) (p : DatabasePath) (db : Database) : Prop :=
  ∃ server, c.server? p.group p.server = some server ∧ server.available = true ∧
    server.databases.find? p.database = some db

variable {c : Catalog} {p : DatabasePath} {db : Database}

theorem reach_of_server {server : Server} (hs : c.server? p.group p.server = some server) :
    c.reach p =
      if server.available = false then .error (.connectionFailed (.notAccepting server.name))
      else if server.databases.find? p.database = none then .error (.databaseNotFound p.database)
      else .ok () := by
  obtain ⟨servers, hg, hs⟩ := Option.bind_eq_some_iff.mp hs
  rw [reach_eq]
  simp only [hg, hs]

theorem Serves.reach (h : c.Serves p db) : c.reach p = .ok () := by
  obtain ⟨server, hs, ha, hd⟩ := h
  rw [reach_of_server hs, ha, hd]
  rfl

theorem Serves.relation (h : c.Serves p db) (oid : Oid) :
    c.relation p oid = (db.relation oid).map (·.relation) := by
  obtain ⟨server, hs, _, hd⟩ := h
  have hdb : c.database p = .ok db := database_eq_ok.mpr (Option.bind_eq_some_iff.mpr ⟨_, hs, hd⟩)
  unfold Catalog.relation
  rw [hdb]
  cases hr : db.relation oid <;> simp only [bind, Except.bind, hr] <;> rfl

theorem database_setAvailable (c : Catalog) (g s : UInt32) (available : Bool)
    (q : DatabasePath) :
    (c.modifyServer g s fun server => { server with available }).database q = c.database q := by
  simp only [database_eq, modifyServer, SortedMap.find?_modify]
  by_cases hg : q.group = g
  · cases hf : c.groups.find? q.group with
    | none => simp
    | some servers =>
      by_cases hs : q.server = s
      · cases hv : servers.find? q.server <;>
          simp only [if_pos hg, if_pos hs, Option.map_some, Option.map_none,
            SortedMap.find?_modify, hv]
      · simp [hg, SortedMap.find?_modify, hs]
  · simp [hg]

theorem database?_setAvailable (c : Catalog) (g s : UInt32) (available : Bool)
    (q : DatabasePath) :
    (c.modifyServer g s fun server => { server with available }).database? q =
      c.database? q := by
  apply Option.ext
  intro db
  rw [← database_eq_ok, ← database_eq_ok, database_setAvailable]

theorem server?_of_database? {c : Catalog} {p : DatabasePath} {db : Database}
    (h : c.database? p = some db) : ∃ server, c.server? p.group p.server = some server ∧
      server.databases.find? p.database = some db := Option.bind_eq_some_iff.mp h

end Catalog

namespace Database

theorem relation_eq_ok {db : Database} {oid : Oid} {r : StoredRelation} :
    db.relation oid = .ok r ↔ db.relations.find? oid = some r := by
  unfold relation
  split <;> simp_all

theorem relation_putStored_self (db : Database) (oid : Oid) (r : StoredRelation) :
    (db.putStored oid r).relation oid = .ok r := by
  rw [relation_eq_ok, putStored, SortedMap.find?_insert, if_pos rfl]

theorem putStored_putStored (db : Database) (oid : Oid) (r r' : StoredRelation) :
    (db.putStored oid r).putStored oid r' = db.putStored oid r' := by
  unfold putStored
  rw [SortedMap.insert_insert]

theorem relationAs_eq_ok {db : Database} {oid : Oid} {kind : RelationKind} {r : StoredRelation} :
    db.relationAs oid kind = .ok r ↔
      db.relations.find? oid = some r ∧ r.relation.kind = kind := by
  simp only [relationAs, bind_eq_ok, relation_eq_ok]
  constructor
  · rintro ⟨s, hs, h⟩
    split at h
    · next hk =>
      cases h
      exact ⟨hs, hk⟩
    · cases h
  · rintro ⟨hr, hk⟩
    exact ⟨r, hr, by simp [hk, pure, Except.pure]⟩

theorem trigger_eq_ok {db : Database} {oid : Oid} {t : Trigger} :
    db.trigger oid = .ok t ↔ db.triggers.find? oid = some t := by
  unfold trigger
  split <;> simp_all

theorem schemaOid_eq_ok {db : Database} {name : String} {oid : Oid}
    (h : db.schemaOid name = .ok oid) : db.schemas.find? oid = some name := by
  unfold schemaOid at h
  split at h
  · next e he =>
    cases h
    have hn := List.find?_some he
    have hm := List.mem_of_find?_eq_some he
    rw [SortedMap.find?_eq_some_iff]
    simp only [decide_eq_true_eq] at hn
    rwa [← hn]
  · cases h

theorem ne_of_schemaOid_not_ok {db : Database} {name other : String} {oid : Oid}
    (h : ¬(db.schemaOid name).isOk) (ho : db.schemas.find? oid = some other) : other ≠ name := by
  rintro rfl
  apply h
  unfold schemaOid
  split
  · rfl
  · next hn =>
    have := List.find?_eq_none.mp hn (oid, other) (SortedMap.find?_eq_some_iff.mp ho)
    simp at this

end Database

theorem StoredRelation.relation_insert {s s' : StoredRelation} {rows : List Row}
    (h : s.insert rows = .ok s') : s'.relation = s.relation := by
  unfold StoredRelation.insert at h
  split at h
  · cases h
  · split at h <;> cases h
    rfl

end DbConsole
