import DbConsole.Proofs.Catalog.WellFormed

namespace DbConsole

namespace Database

def Sound (db : Database) : Prop :=
  ∀ oid stored, db.relations.find? oid = some stored → stored.relation.Sound

variable {db db' : Database} {oid : Oid}

theorem sound_new (name : String) (publicOid : Oid) : (Database.new name publicOid).Sound := nofun

theorem sound_putStored (h : db.Sound) {s : StoredRelation} (hs : s.relation.Sound) :
    (db.putStored oid s).Sound := by
  intro o s' hf
  simp only [putStored, SortedMap.find?_insert] at hf
  split at hf
  · cases hf
    exact hs
  · exact h o s' hf

theorem sound_redescribed (h : db.Sound) (hd : db.Redescribed db') : db'.Sound := by
  cases hd with
  | relation oid stored r hf hr => exact sound_putStored h ((h oid stored hf).redescribed hr)
  | trigger => exact h

theorem sound_alters (h : db.Sound) (hd : db.Alters db') : db'.Sound := by
  cases hd with
  | refresh oid r rows hr hk =>
    have hs := h oid r hr
    exact sound_putStored h hs
  | insert oid r r' rows hr hi =>
    refine sound_putStored h ?_
    rw [StoredRelation.relation_insert hi]
    exact h oid r hr
  | execute statements _ hd => exact applyAll_preserves sound_redescribed hd h

theorem sound_grows (h : db.Sound) (hd : db.Grows oid db') : db'.Sound := by
  cases hd with
  | schema | trigger => exact h
  | relation d schemaOid populated hs hn hk =>
    have hsound := Catalog.RelationDraft.relation_sound hk oid schemaOid
    exact sound_putStored h hsound

end Database

namespace Catalog

variable {c c' : Catalog}

def Sound (c : Catalog) : Prop := ∀ p db, c.database? p = some db → db.Sound

theorem sound_change (h : c.Sound) (hc : c.Change c') : c'.Sound :=
  forall_database_of_change Database.sound_new Database.sound_grows Database.sound_alters h hc

theorem sound_empty : Catalog.empty.Sound := nofun

theorem sound_standard : Catalog.standard.Sound := standard_of_change sound_empty sound_change

theorem Sound.relation {p : DatabasePath} {oid : Oid} {r : Relation} (h : c.Sound)
    (hr : c.relation p oid = .ok r) : r.Sound := by
  obtain ⟨db, hp, hr⟩ := bind_eq_ok.mp hr
  obtain ⟨stored, hs, hr⟩ := bind_eq_ok.mp hr
  cases hr
  exact h p db (database_eq_ok.mp hp) oid stored (Database.relation_eq_ok.mp hs)

end Catalog

end DbConsole
