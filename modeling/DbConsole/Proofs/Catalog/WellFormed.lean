import DbConsole.Proofs.Catalog.Numbers

namespace DbConsole

structure Relation.Sound (r : Relation) : Prop where
  keyExists : ∀ k ∈ r.primaryKey, ∃ c ∈ r.columns, c.name = k
  keyFilled : ∀ k ∈ r.primaryKey, ∀ c ∈ r.columns, c.name = k → c.notNull = true
  options : r.options ≠ .empty → r.kind = .table ∨ r.kind = .materializedView
  description : r.description ≠ some ""

theorem RelationKind.hasParameters_iff {k : RelationKind} :
    k.hasParameters = true ↔ k = .table ∨ k = .materializedView := by
  cases k <;> decide

/-- Objects stand under their own numbers, names are unique where they have to be, and what an
object refers to is there. -/
structure Database.WellFormed (db : Database) : Prop where
  schemaNames : ∀ {o o' name}, db.schemas.find? o = some name → db.schemas.find? o' = some name →
    o = o'
  relationOid : ∀ {o r}, db.relations.find? o = some r → r.relation.oid = o
  relationSchema : ∀ {o r}, db.relations.find? o = some r →
    db.schemas.find? r.relation.schemaOid = some r.relation.name.schema
  relationNames : ∀ {o o' r r'}, db.relations.find? o = some r → db.relations.find? o' = some r' →
    r.relation.schemaOid = r'.relation.schemaOid → r.relation.name.name = r'.relation.name.name →
    o = o'
  relationSound : ∀ {o r}, db.relations.find? o = some r → r.relation.Sound
  triggerOid : ∀ {o t}, db.triggers.find? o = some t → t.oid = o
  triggerTable : ∀ {o t}, db.triggers.find? o = some t → ∃ r,
    db.relations.find? t.tableOid = some r ∧ r.relation.kind = .table ∧ r.relation.name = t.table
  triggerNames : ∀ {o o' t t'}, db.triggers.find? o = some t → db.triggers.find? o' = some t' →
    t.tableOid = t'.tableOid → t.name = t'.name → o = o'
  triggerDescription : ∀ {o t}, db.triggers.find? o = some t → t.description ≠ some ""

namespace Relation

variable {r r' : Relation}

theorem core_eq_iff : r'.core = r.core ↔ r'.oid = r.oid ∧ r'.schemaOid = r.schemaOid ∧
    r'.name = r.name ∧ r'.kind = r.kind ∧ r'.columns = r.columns ∧
    r'.primaryKey = r.primaryKey := by
  simp [core]

theorem Sound.redescribed (hs : r.Sound) (h : r.Redescribed r') : r'.Sound := by
  obtain ⟨_, _, _, hk, hc, hp⟩ := core_eq_iff.mp h.core
  refine ⟨?_, ?_, ?_, ?_⟩
  · rw [hp, hc]
    exact hs.keyExists
  · rw [hp, hc]
    exact hs.keyFilled
  · intro hne
    rw [hk]
    exact (h.options hne).elim hs.options RelationKind.hasParameters_iff.mp
  · rcases h.description with hd | hd
    · rw [hd]
      exact hs.description
    · exact hd

end Relation

theorem Catalog.RelationDraft.relation_sound {d : RelationDraft} (h : d.missingKey? = none)
    (oid schemaOid : Oid) : (d.relation oid schemaOid).Sound := by
  refine ⟨?_, ?_, ?_, ?_⟩
  · intro k hk
    have hm := List.find?_eq_none.mp h k hk
    simp only [Bool.not_eq_true', Bool.not_eq_false, List.any_eq_true, decide_eq_true_eq] at hm
    obtain ⟨c, hc, hn⟩ := hm
    exact ⟨_, List.mem_map_of_mem hc, hn⟩
  · intro k hk c hc hn
    obtain ⟨c', _, rfl⟩ := List.mem_map.mp hc
    have hc' : c'.name = k := hn
    have hk' : k ∈ d.primaryKey := hk
    simp [hc', hk']
  · exact fun hne => absurd rfl hne
  · exact nofun

namespace Database

variable {db db' : Database} {oid : Oid}

theorem exempt_of_triggerNameTaken {tableOid : Oid} {name : String} {exempt : Option Oid}
    (h : ¬db.triggerNameTaken tableOid name exempt) {o : Oid} {t : Trigger}
    (hf : db.triggers.find? o = some t) (ht : t.tableOid = tableOid) (hn : t.name = name) :
    exempt = some t.oid := by
  by_contra hne
  apply h
  exact List.any_eq_true.mpr ⟨t, SortedMap.mem_values.mpr ⟨o, hf⟩, by simp [ht, hn, hne]⟩

namespace WellFormed

theorem new (name : String) (publicOid : Oid) : (Database.new name publicOid).WellFormed where
  schemaNames := by
    intro o o' n h h'
    simp only [Database.new, SortedMap.find?_insert, SortedMap.find?_empty] at h h'
    split at h <;> split at h' <;> simp_all
  relationOid := nofun
  relationSchema := nofun
  relationNames := nofun
  relationSound := nofun
  triggerOid := nofun
  triggerTable := nofun
  triggerNames := nofun
  triggerDescription := nofun

theorem putStored (hw : db.WellFormed) {stored stored' : StoredRelation}
    (hf : db.relations.find? oid = some stored)
    (hc : stored'.relation.core = stored.relation.core) (hs : stored'.relation.Sound) :
    (db.putStored oid stored').WellFormed := by
  obtain ⟨ho, hso, hn, hk, -, -⟩ := Relation.core_eq_iff.mp hc
  have hback : ∀ {o r}, (db.putStored oid stored').relations.find? o = some r →
      ∃ r₀, db.relations.find? o = some r₀ ∧ r.relation.core = r₀.relation.core ∧
        (r₀.relation.Sound → r.relation.Sound) := by
    intro o r h
    simp only [Database.putStored, SortedMap.find?_insert] at h
    split at h
    · next he =>
      cases h
      exact ⟨stored, he ▸ hf, hc, fun _ => hs⟩
    · exact ⟨r, h, rfl, id⟩
  refine { hw with
    relationOid := ?_, relationSchema := ?_, relationNames := ?_, relationSound := ?_,
    triggerTable := ?_ }
  · intro o r h
    obtain ⟨r₀, h₀, hc₀, -⟩ := hback h
    exact (Relation.core_eq_iff.mp hc₀).1.trans (hw.relationOid h₀)
  · intro o r h
    obtain ⟨r₀, h₀, hc₀, -⟩ := hback h
    obtain ⟨-, hs₀, hn₀, -⟩ := Relation.core_eq_iff.mp hc₀
    rw [hs₀, hn₀]
    exact hw.relationSchema h₀
  · intro o o' r r' h h' hso hrn
    obtain ⟨r₀, h₀, hc₀, -⟩ := hback h
    obtain ⟨r₁, h₁, hc₁, -⟩ := hback h'
    obtain ⟨-, hs₀, hn₀, -⟩ := Relation.core_eq_iff.mp hc₀
    obtain ⟨-, hs₁, hn₁, -⟩ := Relation.core_eq_iff.mp hc₁
    rw [hs₀, hs₁] at hso
    rw [hn₀, hn₁] at hrn
    exact hw.relationNames h₀ h₁ hso hrn
  · intro o r h
    obtain ⟨r₀, h₀, -, hs₀⟩ := hback h
    exact hs₀ (hw.relationSound h₀)
  · intro o t h
    obtain ⟨r, hr, hrk, hrn⟩ := hw.triggerTable h
    by_cases he : t.tableOid = oid
    · have hrs : r = stored := by simpa [he, hf, eq_comm] using hr
      subst r
      exact ⟨stored', by simp [Database.putStored, SortedMap.find?_insert, he], hk.trans hrk,
        hn.trans hrn⟩
    · exact ⟨r, by simpa [Database.putStored, SortedMap.find?_insert, he] using hr, hrk, hrn⟩

theorem putTrigger (hw : db.WellFormed) {t t' : Trigger} (hf : db.triggers.find? oid = some t)
    (ht : t.Redescribed db t') : (db.putTrigger oid t').WellFormed := by
  have hto : t.oid = oid := hw.triggerOid hf
  have hother : ∀ {o u}, db.triggers.find? o = some u → t.tableOid = u.tableOid →
      t'.name = u.name → o = oid := by
    intro o u hu hut hun
    rcases ht.name with hn | hn
    · exact hw.triggerNames hu hf hut.symm (hun.symm.trans hn)
    · have he := exempt_of_triggerNameTaken hn hu hut.symm hun.symm
      rw [← hw.triggerOid hu, ← hto]
      exact (Option.some.inj he).symm
  refine { hw with
    triggerOid := ?_, triggerTable := ?_, triggerNames := ?_, triggerDescription := ?_ }
  · intro o u hu
    simp only [Database.putTrigger, SortedMap.find?_insert] at hu
    split at hu
    · next he =>
      cases hu
      rw [ht.oid, hto, he]
    · exact hw.triggerOid hu
  · intro o u hu
    simp only [Database.putTrigger, SortedMap.find?_insert] at hu
    split at hu
    · cases hu
      rw [ht.tableOid, ht.table]
      exact hw.triggerTable hf
    · exact hw.triggerTable hu
  · intro o o' u u' hu hu' htt hnn
    simp only [Database.putTrigger, SortedMap.find?_insert] at hu hu'
    split at hu <;> split at hu'
    · next he he' => rw [he, he']
    · next he _ =>
      cases hu
      rw [he]
      exact (hother hu' (ht.tableOid.symm.trans htt) hnn).symm
    · next _ he' =>
      cases hu'
      rw [he']
      exact hother hu (ht.tableOid.symm.trans htt.symm) hnn.symm
    · exact hw.triggerNames hu hu' htt hnn
  · intro o u hu
    simp only [Database.putTrigger, SortedMap.find?_insert] at hu
    split at hu
    · cases hu
      rcases ht.description with hd | hd
      · rw [hd]
        exact hw.triggerDescription hf
      · exact hd
    · exact hw.triggerDescription hu

theorem redescribed (hw : db.WellFormed) (h : db.Redescribed db') : db'.WellFormed := by
  cases h with
  | relation o stored r hf hr =>
    exact hw.putStored hf hr.core ((hw.relationSound hf).redescribed hr)
  | trigger o t t' hf ht => exact hw.putTrigger hf (ht (hw.triggerOid hf))

theorem alters (hw : db.WellFormed) (h : db.Alters db') : db'.WellFormed := by
  cases h with
  | refresh o r rows hr hk =>
    have hs : r.relation.Sound := hw.relationSound hr
    exact hw.putStored hr rfl hs
  | insert o r r' rows hr hi =>
    have hrel := StoredRelation.relation_insert hi
    exact hw.putStored hr (congrArg _ hrel) (hrel ▸ hw.relationSound hr)
  | execute statements _ hd => exact applyAll_preserves redescribed hd hw

theorem grow_schema (hw : db.WellFormed) {name : String} (hn : ¬(db.schemaOid name).isOk)
    (hf : db.schemas.find? oid = none) :
    { db with schemas := db.schemas.insert oid name }.WellFormed := by
  refine { hw with schemaNames := ?_, relationSchema := ?_ }
  · intro o o' n h h'
    simp only [SortedMap.find?_insert] at h h'
    split at h <;> split at h'
    · next he he' => rw [he, he']
    · cases h
      exact absurd rfl (ne_of_schemaOid_not_ok hn h')
    · cases h'
      exact absurd rfl (ne_of_schemaOid_not_ok hn h)
    · exact hw.schemaNames h h'
  · intro o r h
    have hs := hw.relationSchema h
    have hne : r.relation.schemaOid ≠ oid := by
      intro he
      rw [he, hf] at hs
      cases hs
    rw [SortedMap.find?_insert, if_neg hne]
    exact hs

theorem grow_relation (hw : db.WellFormed) {d : Catalog.RelationDraft} {schemaOid : Oid}
    {populated : Bool} (hs : db.schemaOid d.schema = .ok schemaOid)
    (hn : ∀ r ∈ db.relations.values, r.relation.schemaOid = schemaOid →
      r.relation.name.name ≠ d.name)
    (hk : d.missingKey? = none) (hf : db.relations.find? oid = none) :
    (db.putStored oid ⟨d.relation oid schemaOid, [], populated⟩).WellFormed := by
  have hn' : ∀ {o r}, db.relations.find? o = some r → r.relation.schemaOid = schemaOid →
      r.relation.name.name ≠ d.name := fun h => hn _ (SortedMap.mem_values.mpr ⟨_, h⟩)
  refine { hw with
    relationOid := ?_, relationSchema := ?_, relationNames := ?_, relationSound := ?_,
    triggerTable := ?_ }
  · intro o r h
    simp only [Database.putStored, SortedMap.find?_insert] at h
    split at h
    · next he =>
      cases h
      exact he.symm
    · exact hw.relationOid h
  · intro o r h
    simp only [Database.putStored, SortedMap.find?_insert] at h
    split at h
    · cases h
      exact schemaOid_eq_ok hs
    · exact hw.relationSchema h
  · intro o o' r r' h h' hso hrn
    simp only [Database.putStored, SortedMap.find?_insert] at h h'
    split at h <;> split at h'
    · next he he' => rw [he, he']
    · cases h
      exact absurd hrn.symm (hn' h' hso.symm)
    · cases h'
      exact absurd hrn (hn' h hso)
    · exact hw.relationNames h h' hso hrn
  · intro o r h
    simp only [Database.putStored, SortedMap.find?_insert] at h
    split at h
    · cases h
      exact Catalog.RelationDraft.relation_sound hk oid schemaOid
    · exact hw.relationSound h
  · intro o t h
    obtain ⟨r, hr, hrk, hrn⟩ := hw.triggerTable h
    have hne : t.tableOid ≠ oid := by
      intro he
      rw [he, hf] at hr
      cases hr
    exact ⟨r, by simpa [Database.putStored, SortedMap.find?_insert, hne] using hr, hrk, hrn⟩

theorem grow_trigger (hw : db.WellFormed) {tableOid : Oid} {table : StoredRelation}
    {name function : String} (ht : db.relations.find? tableOid = some table)
    (hk : table.relation.kind = .table) (hn : ¬db.triggerNameTaken tableOid name none) :
    (db.putTrigger oid (table.relation.newTrigger oid tableOid name function)).WellFormed := by
  have hfree : ∀ {o u}, db.triggers.find? o = some u → u.tableOid = tableOid → u.name ≠ name := by
    intro o u hu hut hun
    cases exempt_of_triggerNameTaken hn hu hut hun
  refine { hw with
    triggerOid := ?_, triggerTable := ?_, triggerNames := ?_, triggerDescription := ?_ }
  · intro o u hu
    simp only [Database.putTrigger, SortedMap.find?_insert] at hu
    split at hu
    · next he =>
      cases hu
      exact he.symm
    · exact hw.triggerOid hu
  · intro o u hu
    simp only [Database.putTrigger, SortedMap.find?_insert] at hu
    split at hu
    · cases hu
      exact ⟨table, ht, hk, rfl⟩
    · exact hw.triggerTable hu
  · intro o o' u u' hu hu' htt hnn
    simp only [Database.putTrigger, SortedMap.find?_insert] at hu hu'
    split at hu <;> split at hu'
    · next he he' => rw [he, he']
    · cases hu
      exact absurd hnn.symm (hfree hu' htt.symm)
    · cases hu'
      exact absurd hnn (hfree hu htt)
    · exact hw.triggerNames hu hu' htt hnn
  · intro o u hu
    simp only [Database.putTrigger, SortedMap.find?_insert] at hu
    split at hu
    · cases hu
      exact (Option.some_ne_none "").symm
    · exact hw.triggerDescription hu

theorem grows (hw : db.WellFormed) (h : db.Grows oid db') (hf : oid ∉ db.oids) :
    db'.WellFormed := by
  simp only [oids, List.mem_append, not_or, ← SortedMap.find?_eq_none] at hf
  cases h with
  | schema name hn => exact hw.grow_schema hn hf.1.1
  | relation d schemaOid populated hs hn hk => exact hw.grow_relation hs hn hk hf.1.2
  | trigger tableOid table name function ht hk hn => exact hw.grow_trigger ht hk hn

end WellFormed

end Database

namespace Catalog

/-- Numbers are unique in the whole catalog, and every database is well-formed. -/
structure WellFormed (c : Catalog) : Prop where
  numbered : c.Numbered
  databases : ∀ {p db}, c.database? p = some db → db.WellFormed

namespace WellFormed

variable {c c' : Catalog}

theorem empty : Catalog.empty.WellFormed := ⟨⟨List.nodup_nil, nofun⟩, nofun⟩

theorem change (hc : c.WellFormed) (h : c.Change c') (hl : c'.nextOid < UInt32.size) :
    c'.WellFormed := by
  refine ⟨hc.numbered.change h hl, fun {p db'} hp => ?_⟩
  rcases database?_of_change h hp with hp | ⟨_, name, rfl⟩ | ⟨db, hp, hd | hd⟩
  · exact hc.databases hp
  · exact .new name _
  · have hn : c.nextOid < UInt32.size := Nat.lt_of_le_of_lt (nextOid_le_of_change h) hl
    refine (hc.databases hp).grows hd fun hm => ?_
    exact hc.numbered.not_mem hn (mem_oids_of_database hp hm)
  · exact (hc.databases hp).alters hd

theorem standard : Catalog.standard.WellFormed := by
  refine standard_of_change (P := fun c => c.nextOid < UInt32.size → c.WellFormed)
    (fun _ => empty) (fun hc h hl => ?_) (by decide)
  exact (hc (Nat.lt_of_le_of_lt (nextOid_le_of_change h) hl)).change h hl

end WellFormed

end Catalog

end DbConsole
