import DbConsole.Proofs.Catalog.Change
import DbConsole.Proofs.Catalog.Statement

namespace DbConsole

def Database.oids (db : Database) : List Oid :=
  db.schemas.keys ++ db.relations.keys ++ db.triggers.keys

def Server.oids (s : Server) : List Oid := s.databases.gather fun e => e.1 :: e.2.oids

namespace Catalog

def oids (c : Catalog) : List Oid := c.groups.gather fun g => g.2.gather fun s => s.2.oids

end Catalog

/-- All numbers of a list are different, and smaller than the next one. -/
structure Numbering (oids : List Oid) (next : Nat) : Prop where
  distinct : oids.Nodup
  below : ∀ o ∈ oids, o.toNat < next

namespace Numbering

variable {l l' : List Oid} {n n' : Nat}

theorem not_mem (h : Numbering l n) (hn : n < UInt32.size) : UInt32.ofNat n ∉ l := by
  intro hm
  have hb := h.below _ hm
  rw [UInt32.toNat_ofNat_of_lt' hn] at hb
  exact Nat.lt_irrefl _ hb

theorem subperm (h : Numbering l n) (hl : l'.Subperm l) (hn : n ≤ n') : Numbering l' n' := by
  refine ⟨?_, fun o hm => Nat.lt_of_lt_of_le (h.below o (hl.subset hm)) hn⟩
  obtain ⟨k, hp, hs⟩ := hl
  exact hp.nodup_iff.mp (h.distinct.sublist hs)

theorem cons (h : Numbering l n) (hn : n < UInt32.size) :
    Numbering (UInt32.ofNat n :: l) (n + 1) := by
  refine ⟨List.nodup_cons.mpr ⟨h.not_mem hn, h.distinct⟩, fun o hm => ?_⟩
  rcases List.mem_cons.mp hm with rfl | hm
  · rw [UInt32.toNat_ofNat_of_lt' hn]
    exact Nat.lt_succ_self n
  · exact Nat.lt_succ_of_lt (h.below o hm)

end Numbering

namespace Catalog

/-- No number stands for two objects, and the numbers to come are still free. -/
def Numbered (c : Catalog) : Prop := Numbering c.oids c.nextOid

variable {c : Catalog} {p : DatabasePath} {db : Database}

theorem oids_modifyServer {g s : UInt32} {server : Server} (h : c.server? g s = some server) :
    ∃ rest, c.oids.Perm (server.oids ++ rest) ∧
      ∀ f, (c.modifyServer g s f).oids.Perm ((f server).oids ++ rest) := by
  obtain ⟨servers, hg, hs⟩ := Option.bind_eq_some_iff.mp h
  have hold := SortedMap.gather_perm (fun s => s.2.oids) hs
  refine ⟨(servers.erase s).gather (fun s => s.2.oids) ++
    (c.groups.erase g).gather (fun g => g.2.gather fun s => s.2.oids), ?_, fun f => ?_⟩
  · refine (SortedMap.gather_perm _ hg).trans ?_
    rw [← List.append_assoc]
    exact hold.append_right _
  · have hnew := SortedMap.gather_insert_perm servers s (f server) (fun s => s.2.oids)
    unfold modifyServer oids
    rw [SortedMap.modify_eq_insert _ hg, SortedMap.modify_eq_insert _ hs]
    refine (SortedMap.gather_insert_perm _ _ _ _).trans ?_
    rw [← List.append_assoc]
    exact hnew.append_right _

theorem oids_putDatabase (h : c.database? p = some db) :
    ∃ rest, c.oids.Perm (p.database :: db.oids ++ rest) ∧
      ∀ db', (c.putDatabase p db').oids.Perm (p.database :: db'.oids ++ rest) := by
  obtain ⟨server, hs, hd⟩ := server?_of_database? h
  obtain ⟨rest, hold, hnew⟩ := oids_modifyServer hs
  have ho := SortedMap.gather_perm (fun e => e.1 :: e.2.oids) hd
  refine ⟨(server.databases.erase p.database).gather (fun e => e.1 :: e.2.oids) ++ rest, ?_,
    fun db' => ?_⟩
  · refine hold.trans ?_
    rw [← List.append_assoc]
    exact ho.append_right rest
  · have hn := SortedMap.gather_insert_perm server.databases p.database db'
      (fun e => e.1 :: e.2.oids)
    refine (hnew _).trans ?_
    rw [← List.append_assoc]
    exact hn.append_right rest

theorem oids_putDatabase_new {server : Server} (h : c.server? p.group p.server = some server)
    (hf : server.databases.find? p.database = none) (db : Database) :
    (c.putDatabase p db).oids.Perm (p.database :: db.oids ++ c.oids) := by
  obtain ⟨rest, hold, hnew⟩ := oids_modifyServer h
  have hn := SortedMap.gather_insert_perm server.databases p.database db (fun e => e.1 :: e.2.oids)
  rw [SortedMap.erase_of_find?_none hf] at hn
  refine (hnew _).trans ((hn.append_right rest).trans ?_)
  rw [List.append_assoc]
  exact hold.symm.append_left _

theorem oids_placeGroup (c : Catalog) (g : UInt32) : (c.placeGroup g).oids.Subperm c.oids :=
  SortedMap.gather_insert_subperm (fun _ _ => List.nil_subperm) fun _ => rfl

theorem oids_placeServer {g : UInt32} {servers : SortedMap UInt32 Server}
    (hg : c.groups.find? g = some servers) (s : UInt32) (name : String) :
    ({ c with groups := c.groups.insert g (servers.insert s ⟨name, true, .empty⟩) } :
      Catalog).oids.Subperm c.oids := by
  have hs : ((servers.insert s ⟨name, true, .empty⟩).gather fun s => s.2.oids).Subperm
      (servers.gather fun s => s.2.oids) :=
    SortedMap.gather_insert_subperm (fun _ _ => List.nil_subperm) fun _ => rfl
  refine SortedMap.gather_insert_subperm (fun w hw => ?_) fun hn => ?_
  · rw [hg] at hw
    cases hw
    exact hs
  · rw [hg] at hn
    cases hn

theorem database_mem_oids (h : c.database? p = some db) : p.database ∈ c.oids := by
  obtain ⟨rest, hold, _⟩ := oids_putDatabase h
  exact hold.mem_iff.mpr (by simp)

theorem mem_oids_of_database (h : c.database? p = some db) {o : Oid} (ho : o ∈ db.oids) :
    o ∈ c.oids := by
  obtain ⟨rest, hold, _⟩ := oids_putDatabase h
  exact hold.mem_iff.mpr (by simp [ho])

end Catalog

namespace Database

variable {db db' : Database} {oid : Oid}

theorem oids_grows (h : db.Grows oid db') (hf : oid ∉ db.oids) :
    db'.oids.Perm (oid :: db.oids) := by
  simp only [oids, List.mem_append, not_or, ← SortedMap.find?_eq_none] at hf
  obtain ⟨⟨hs, hr⟩, ht⟩ := hf
  cases h with
  | schema name hn =>
    have hk := SortedMap.keys_insert_perm db.schemas oid name
    rw [SortedMap.erase_of_find?_none hs] at hk
    exact (hk.append_right _).append_right _
  | relation d schemaOid populated _ _ _ =>
    have hk := SortedMap.keys_insert_perm db.relations oid ⟨d.relation oid schemaOid, [], populated⟩
    rw [SortedMap.erase_of_find?_none hr] at hk
    refine ((hk.append_left db.schemas.keys).append_right db.triggers.keys).trans ?_
    exact List.perm_middle.append_right _
  | trigger tableOid table name function _ _ _ =>
    have hk := SortedMap.keys_insert_perm db.triggers oid
      (table.relation.newTrigger oid tableOid name function)
    rw [SortedMap.erase_of_find?_none ht] at hk
    exact (hk.append_left (db.schemas.keys ++ db.relations.keys)).trans List.perm_middle

theorem oids_putStored {stored : StoredRelation} (h : db.relations.find? oid = some stored)
    (stored' : StoredRelation) : (db.putStored oid stored').oids.Perm db.oids :=
  ((SortedMap.keys_insert_perm_of_mem h stored').append_left _).append_right _

theorem oids_redescribed (h : db.Redescribed db') : db'.oids.Perm db.oids := by
  cases h with
  | relation oid stored r hf hr => exact oids_putStored hf _
  | trigger oid t t' hf ht => exact (SortedMap.keys_insert_perm_of_mem hf t').append_left _

theorem oids_alters (h : db.Alters db') : db'.oids.Perm db.oids := by
  cases h with
  | refresh oid r rows hr hk => exact oids_putStored hr _
  | insert oid r r' rows hr hi => exact oids_putStored hr r'
  | execute statements _ hd =>
    refine applyAll_preserves (P := fun d => d.oids.Perm db.oids) ?_ hd (.refl _)
    exact fun ho hs => (oids_redescribed hs).trans ho

end Database

namespace Catalog

variable {c c' : Catalog} {p : DatabasePath} {db db' : Database}

theorem nextOid_le_of_change (h : c.Change c') : c.nextOid ≤ c'.nextOid := by
  cases h <;> simp [placeGroup, modifyServer, putDatabase, advance, Nat.le_add_right_of_le]

namespace Numbered

theorem putDatabase (hc : c.Numbered) (h : c.database? p = some db)
    (ho : db'.oids.Perm db.oids) : (c.putDatabase p db').Numbered := by
  obtain ⟨rest, hold, hnew⟩ := oids_putDatabase h
  refine Numbering.subperm hc ?_ (Nat.le_refl _)
  exact (((hnew db').trans ((ho.cons _).append_right rest)).trans hold.symm).subperm

theorem grow (hc : c.Numbered) (hr : c.nextOid < UInt32.size) (h : c.database? p = some db)
    (hd : db.Grows c.freshOid db') : (c.advance.putDatabase p db').Numbered := by
  obtain ⟨rest, hold, hnew⟩ := oids_putDatabase (c := c.advance) h
  have hf : c.freshOid ∉ db.oids := fun hm => hc.not_mem hr (mem_oids_of_database h hm)
  have hg := (Database.oids_grows hd hf).cons p.database
  refine (hc.cons hr).subperm (List.Perm.subperm ?_) (Nat.le_refl _)
  refine (hnew db').trans (((hg.trans (.swap ..)).append_right rest).trans ?_)
  exact hold.symm.cons c.freshOid

theorem createDatabase (hc : c.Numbered) {g s : UInt32} {server : Server} {name : String}
    (hr : c.nextOid + 1 < UInt32.size) (h : c.server? g s = some server) :
    (c.advance.advance.putDatabase ⟨g, s, c.freshOid⟩ (.new name c.advance.freshOid)).Numbered := by
  have hr' : c.nextOid < UInt32.size := Nat.lt_of_succ_lt hr
  have hf : server.databases.find? c.freshOid = none := by
    by_contra hne
    obtain ⟨db, hdb⟩ := Option.ne_none_iff_exists'.mp hne
    have hd : c.database? ⟨g, s, c.freshOid⟩ = some db := by simp [database?, h, hdb]
    exact hc.not_mem hr' (database_mem_oids hd)
  have hp := oids_putDatabase_new (c := c.advance.advance) (p := ⟨g, s, c.freshOid⟩) h hf
    (.new name c.advance.freshOid)
  refine ((hc.cons hr').cons hr).subperm (List.Perm.subperm ?_) (Nat.le_refl _)
  exact hp.trans (.swap ..)

theorem setAvailable (hc : c.Numbered) {g s : UInt32} {server : Server}
    (h : c.server? g s = some server) (available : Bool) :
    (c.modifyServer g s fun server => { server with available }).Numbered := by
  obtain ⟨rest, hold, hnew⟩ := oids_modifyServer h
  exact Numbering.subperm hc ((hnew _).trans hold.symm).subperm (Nat.le_refl _)

theorem change (hc : c.Numbered) (h : c.Change c') (hl : c'.nextOid < UInt32.size) :
    c'.Numbered := by
  cases h with
  | placeGroup g => exact Numbering.subperm hc (oids_placeGroup c g) (Nat.le_refl _)
  | placeServer g s servers name hg =>
    exact Numbering.subperm hc (oids_placeServer hg s name) (Nat.le_refl _)
  | setAvailable g s server available hs => exact hc.setAvailable hs available
  | createDatabase g s server name hs => exact hc.createDatabase (Nat.lt_of_succ_lt hl) hs
  | grow p db db' hp hd => exact hc.grow (Nat.lt_of_succ_lt hl) hp hd
  | alter p db db' hp hd => exact hc.putDatabase hp (Database.oids_alters hd)

end Numbered

end Catalog

end DbConsole
