import DbConsole.Proofs.Catalog.Numbers

namespace DbConsole

/-- Every relation is still there, and is the same apart from its rows and its description. -/
def Database.Keeps (db db' : Database) : Prop :=
  ∀ oid stored, db.relations.find? oid = some stored →
    ∃ stored', db'.relations.find? oid = some stored' ∧
      stored'.relation.core = stored.relation.core

namespace Database

variable {db db' db'' : Database} {oid : Oid}

theorem Keeps.refl (db : Database) : db.Keeps db :=
  fun _ stored h => ⟨stored, h, rfl⟩

theorem Keeps.trans (h : db.Keeps db') (h' : db'.Keeps db'') : db.Keeps db'' := by
  intro oid stored hf
  obtain ⟨stored', hf', hc⟩ := h oid stored hf
  obtain ⟨stored'', hf'', hc'⟩ := h' oid stored' hf'
  exact ⟨stored'', hf'', hc'.trans hc⟩

theorem keeps_putStored {stored stored' : StoredRelation}
    (hf : db.relations.find? oid = some stored)
    (hc : stored'.relation.core = stored.relation.core) : db.Keeps (db.putStored oid stored') := by
  intro o r hr
  by_cases ho : o = oid
  · subst o
    have he : r = stored := Option.some.inj (hr.symm.trans hf)
    exact ⟨stored', by simp [putStored, SortedMap.find?_insert], he ▸ hc⟩
  · exact ⟨r, by simpa [putStored, SortedMap.find?_insert, ho] using hr, rfl⟩

theorem keeps_redescribed (h : db.Redescribed db') : db.Keeps db' := by
  cases h with
  | relation oid stored r hf hr => exact keeps_putStored hf hr.core
  | trigger oid t t' hf ht => exact .refl db

theorem keeps_alters (h : db.Alters db') : db.Keeps db' := by
  cases h with
  | refresh oid r rows hr hk => exact keeps_putStored hr rfl
  | insert oid r r' rows hr hi =>
    have hc := congrArg Relation.core (StoredRelation.relation_insert hi)
    exact keeps_putStored hr hc
  | execute statements _ hd =>
    refine applyAll_preserves (P := fun d => db.Keeps d) ?_ hd (.refl db)
    exact fun hk hs => hk.trans (keeps_redescribed hs)

theorem keeps_grows (h : db.Grows oid db') (hf : oid ∉ db.oids) : db.Keeps db' := by
  cases h with
  | schema | trigger => exact .refl db
  | relation d schemaOid populated _ _ _ =>
    intro o r hr
    have hne : o ≠ oid := by
      rintro rfl
      apply hf
      simp [oids, SortedMap.mem_keys.mpr ⟨r, hr⟩]
    exact ⟨r, by simpa [putStored, SortedMap.find?_insert, hne] using hr, rfl⟩

end Database

namespace Catalog

/-- A catalog and what may become of it: groups stay, and an old number stands for the database that
it always stood for, if it stands for one at all. -/
structure Leads (c c' : Catalog) : Prop where
  nextOid : c.nextOid ≤ c'.nextOid
  groups : ∀ {g}, (c.groups.find? g).isSome → (c'.groups.find? g).isSome
  databases : ∀ {p db'}, c'.database? p = some db' → p.database.toNat < c.nextOid →
    ∃ db, c.database? p = some db ∧ db.Keeps db'

variable {c c' c'' : Catalog}

theorem Leads.refl (c : Catalog) : c.Leads c where
  nextOid := Nat.le_refl _
  groups h := h
  databases hp _ := ⟨_, hp, .refl _⟩

theorem Leads.trans (h : c.Leads c') (h' : c'.Leads c'') : c.Leads c'' where
  nextOid := Nat.le_trans h.nextOid h'.nextOid
  groups hg := h'.groups (h.groups hg)
  databases := by
    intro p db'' hp hl
    obtain ⟨db', hp', hk'⟩ := h'.databases hp (Nat.lt_of_lt_of_le hl h.nextOid)
    obtain ⟨db, hp, hk⟩ := h.databases hp' hl
    exact ⟨db, hp, hk.trans hk'⟩

theorem groups_modifyServer (c : Catalog) (g s : UInt32) (f : Server → Server) {h : UInt32}
    (hg : (c.groups.find? h).isSome) : ((c.modifyServer g s f).groups.find? h).isSome := by
  simp only [modifyServer, SortedMap.find?_modify]
  split
  · simpa using hg
  · exact hg

theorem groups_of_change (h : c.Change c') {g : UInt32} (hg : (c.groups.find? g).isSome) :
    (c'.groups.find? g).isSome := by
  cases h with
  | placeGroup g' =>
    simp only [placeGroup, SortedMap.find?_insert]
    split
    · rfl
    · exact hg
  | placeServer g' s servers name _ =>
    simp only [SortedMap.find?_insert]
    split
    · rfl
    · exact hg
  | setAvailable | createDatabase | grow | alter => exact groups_modifyServer _ _ _ _ hg

theorem leads_of_change (hc : c.Numbered) (h : c.Change c') (hl : c'.nextOid < UInt32.size) :
    c.Leads c' := by
  have hle := nextOid_le_of_change h
  have hn : c.nextOid < UInt32.size := Nat.lt_of_le_of_lt hle hl
  refine ⟨hle, groups_of_change h, fun {p db'} hp hlt => ?_⟩
  rcases database?_of_change h hp with hp | ⟨hf, _⟩ | ⟨db, hp, hd | hd⟩
  · exact ⟨db', hp, .refl db'⟩
  · rw [hf, freshOid, UInt32.toNat_ofNat_of_lt' hn] at hlt
    exact absurd hlt (Nat.lt_irrefl _)
  · refine ⟨db, hp, Database.keeps_grows hd fun hm => ?_⟩
    exact hc.not_mem hn (mem_oids_of_database hp hm)
  · exact ⟨db, hp, Database.keeps_alters hd⟩

end Catalog

end DbConsole
