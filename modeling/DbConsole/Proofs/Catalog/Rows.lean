import DbConsole.Proofs.Catalog.WellFormed
import DbConsole.Query.Plan

namespace DbConsole

theorem mapM_eq_some {α β : Type} {f : α → Option β} {g : α → β} {l : List α}
    (h : ∀ a ∈ l, f a = some (g a)) : l.mapM f = some (l.map g) := by
  induction l with
  | nil => rfl
  | cons a rest ih =>
    rw [List.mapM_cons, h a (.head _), ih fun b hb => h b (.tail _ hb)]
    rfl

namespace Relation

variable {r r' : Relation} {rows : List Row} {row : Row}

/-- The texts of a row in the columns of the primary key. -/
def keyTexts (r : Relation) (row : Row) : List String := r.keyPlaces.map fun i => (row.cell i).text

/-- Rows that a relation may have: each fills all columns, none is empty where it must not be, and
no two have the same key. The key is one of columns that are there. -/
structure Admits (r : Relation) (rows : List Row) : Prop where
  keyFound : r.keyPlaces.length = r.primaryKey.length
  lengths : ∀ row ∈ rows, row.length = r.columns.length
  filled : ∀ row ∈ rows, ∀ (i : Nat) (c : Column), r.columns[i]? = some c → c.notNull = true →
    row[i]? ≠ some .null
  keys : r.primaryKey ≠ [] → rows.Pairwise fun a b => r.keyTexts a ≠ r.keyTexts b

theorem lt_of_mem_keyPlaces {i : Nat} (h : i ∈ r.keyPlaces) : i < r.columns.length := by
  obtain ⟨k, _, hi⟩ := List.mem_filterMap.mp h
  exact (List.findIdx?_eq_some_iff_getElem.mp hi).1

theorem key?_eq (h : row.length = r.columns.length) : r.key? row = some (r.keyTexts row) := by
  refine mapM_eq_some fun i hi => ?_
  have hlt : i < row.length := by
    rw [h]
    exact lt_of_mem_keyPlaces hi
  simp [Row.cell, hlt]

theorem filled_of_emptyColumn? (h : r.emptyColumn? row = none) {i : Nat} {c : Column}
    (hc : r.columns[i]? = some c) (hn : c.notNull = true) : row[i]? ≠ some .null := by
  intro hv
  have hz : (c, Json.null) ∈ r.columns.zip row :=
    List.mem_of_getElem? (List.getElem?_zip_eq_some.mpr ⟨hc, hv⟩)
  have hf := List.find?_eq_none.mp (Option.map_eq_none_iff.mp h) _ hz
  simp [hn, Json.isNull] at hf

theorem admits_nil (h : r.keyPlaces.length = r.primaryKey.length) : r.Admits [] where
  keyFound := h
  lengths := nofun
  filled := nofun
  keys _ := .nil

theorem Admits.of_core (h : r.Admits rows) (hcore : r'.core = r.core) : r'.Admits rows := by
  obtain ⟨_, _, _, _, hc, hp⟩ := core_eq_iff.mp hcore
  have hk : r'.keyPlaces = r.keyPlaces := by
    unfold keyPlaces
    rw [hc, hp]
  refine ⟨?_, ?_, ?_, ?_⟩
  · rw [hk, hp]
    exact h.keyFound
  · rw [hc]
    exact h.lengths
  · rw [hc]
    exact h.filled
  · rw [hp]
    unfold keyTexts
    rw [hk]
    exact h.keys

end Relation

namespace StoredRelation

variable {r : Relation} {s s' : StoredRelation} {taken : List (List String)} {rows : List Row}
  {row : Row} {key : List String}

/-- A row that may be added beside rows with certain keys. -/
structure Fits (r : Relation) (taken : List (List String)) (row : Row) : Prop where
  length : row.length = r.columns.length
  filled : r.emptyColumn? row = none
  key : r.keyPlaces ≠ [] → r.keyTexts row ∉ taken

theorem fits_of_accept (h : accept r taken row = .ok key) :
    Fits r taken row ∧ key = r.keyTexts row := by
  unfold accept at h
  by_cases hl : row.length = r.columns.length
  · cases he : r.emptyColumn? row with
    | some c => simp [hl, he, bind, Except.bind, throw, throwThe, MonadExceptOf.throw] at h
    | none =>
      simp only [hl, he, Relation.key?_eq hl, Option.getD_some, ne_eq, not_true, if_false] at h
      split at h
      · cases h
      · next hk =>
        cases h
        exact ⟨⟨hl, he, fun hp hm => hk ⟨hp, hm⟩⟩, rfl⟩
  · simp [hl, bind, Except.bind, throw, throwThe, MonadExceptOf.throw] at h

theorem fits_of_acceptAll (h : acceptAll r taken rows = .ok ()) :
    (∀ row ∈ rows, Fits r taken row) ∧
      (r.keyPlaces ≠ [] → rows.Pairwise fun a b => r.keyTexts a ≠ r.keyTexts b) := by
  induction rows generalizing taken with
  | nil => exact ⟨nofun, fun _ => .nil⟩
  | cons row rest ih =>
    obtain ⟨key, ha, h⟩ := bind_eq_ok.mp h
    obtain ⟨hfits, rfl⟩ := fits_of_accept ha
    obtain ⟨hrest, hkeys⟩ := ih h
    refine ⟨fun a hm => ?_, fun hp => List.pairwise_cons.mpr ⟨fun b hb he => ?_, hkeys hp⟩⟩
    · rcases List.mem_cons.mp hm with rfl | hm
      · exact hfits
      · obtain ⟨hl, hf, hk⟩ := hrest a hm
        exact ⟨hl, hf, fun hp ht => hk hp (.tail _ ht)⟩
    · exact (hrest b hb).key hp (he ▸ .head _)

theorem taken_eq (h : s.relation.Admits s.rows) :
    s.rows.mapM s.relation.key? = some (s.rows.map s.relation.keyTexts) :=
  mapM_eq_some fun row hm => Relation.key?_eq (h.lengths row hm)

/-- No stored row is too short to have a key. -/
theorem insert_ne_shortStoredRow (h : s.relation.Admits s.rows) (rows : List Row) :
    s.insert rows ≠ .error .shortStoredRow := by
  unfold insert
  rw [taken_eq h]
  dsimp only
  split <;> simp

theorem admits_insert (h : s.relation.Admits s.rows) (hi : s.insert rows = .ok s') :
    s'.relation.Admits s'.rows := by
  unfold insert at hi
  rw [taken_eq h] at hi
  dsimp only at hi
  split at hi
  · cases hi
  next ha =>
  cases hi
  obtain ⟨hfits, hkeys⟩ := fits_of_acceptAll ha
  refine ⟨h.keyFound, fun row hm => ?_, fun row hm i c hc hn => ?_, fun hp => ?_⟩
  · rcases List.mem_append.mp hm with hm | hm
    · exact h.lengths row hm
    · exact (hfits row hm).length
  · rcases List.mem_append.mp hm with hm | hm
    · exact h.filled row hm i c hc hn
    · exact Relation.filled_of_emptyColumn? (hfits row hm).filled hc hn
  · have hplaces : s.relation.keyPlaces ≠ [] := by
      rw [← List.length_pos_iff, h.keyFound]
      exact List.length_pos_iff.mpr hp
    refine List.pairwise_append.mpr ⟨h.keys hp, hkeys hplaces, fun a ha b hb he => ?_⟩
    exact (hfits b hb).key hplaces (he ▸ List.mem_map_of_mem ha)

end StoredRelation

theorem Relation.Sound.keyFound {r : Relation} (h : r.Sound) :
    r.keyPlaces.length = r.primaryKey.length := by
  refine List.filterMap_length_eq_length.mpr fun k hk => ?_
  obtain ⟨c, hc, hn⟩ := h.keyExists k hk
  exact List.findIdx?_isSome.trans (List.any_eq_true.mpr ⟨c, hc, by simp [hn]⟩)

namespace Database

/-- Every relation has rows that it may have. A materialized view may have any rows. -/
def RowsAdmitted (db : Database) : Prop :=
  ∀ oid s, db.relations.find? oid = some s → s.relation.kind ≠ .materializedView →
    s.relation.Admits s.rows

variable {db db' : Database} {oid : Oid}

theorem rowsAdmitted_new (name : String) (publicOid : Oid) :
    (Database.new name publicOid).RowsAdmitted := nofun

theorem rowsAdmitted_putStored (h : db.RowsAdmitted) {s : StoredRelation}
    (hs : s.relation.kind ≠ .materializedView → s.relation.Admits s.rows) :
    (db.putStored oid s).RowsAdmitted := by
  intro o s' hf hk
  simp only [putStored, SortedMap.find?_insert] at hf
  split at hf
  · cases hf
    exact hs hk
  · exact h o s' hf hk

theorem rowsAdmitted_redescribed (h : db.RowsAdmitted) (hd : db.Redescribed db') :
    db'.RowsAdmitted := by
  cases hd with
  | relation oid stored r hf hr =>
    refine rowsAdmitted_putStored h fun hk => ?_
    obtain ⟨_, _, _, hkind, _, _⟩ := Relation.core_eq_iff.mp hr.core
    have hstored : stored.relation.kind ≠ .materializedView := hkind ▸ hk
    exact (h oid stored hf hstored).of_core hr.core
  | trigger => exact h

theorem rowsAdmitted_alters (h : db.RowsAdmitted) (hd : db.Alters db') : db'.RowsAdmitted := by
  cases hd with
  | refresh oid r rows hr hk => exact rowsAdmitted_putStored h fun hne => (hne hk).elim
  | insert oid r r' rows hr hi =>
    refine rowsAdmitted_putStored h fun hk => ?_
    rw [StoredRelation.relation_insert hi] at hk
    exact StoredRelation.admits_insert (h oid r hr hk) hi
  | execute statements _ hd => exact applyAll_preserves rowsAdmitted_redescribed hd h

theorem rowsAdmitted_grows (h : db.RowsAdmitted) (hd : db.Grows oid db') :
    db'.RowsAdmitted := by
  cases hd with
  | schema | trigger => exact h
  | relation d schemaOid populated hs hn hk =>
    have hsound := Catalog.RelationDraft.relation_sound hk oid schemaOid
    exact rowsAdmitted_putStored h fun _ => Relation.admits_nil hsound.keyFound

end Database

namespace Catalog

variable {c c' : Catalog}

theorem insert_eq {p : DatabasePath} {oid : Oid} {db : Database} {s : StoredRelation}
    (hd : c.database p = .ok db) (hr : db.relation oid = .ok s) (rows : List Row) :
    c.insert p oid rows = s.insert rows >>= fun r =>
      .ok (rows.length, c.putDatabase p (db.putStored oid r)) := by
  unfold insert
  rw [hd]
  change (db.relation oid).mapError InsertError.refused >>= _ = _
  rw [hr]
  rfl

def RowsAdmitted (c : Catalog) : Prop := ∀ p db, c.database? p = some db → db.RowsAdmitted

theorem rowsAdmitted_change (h : c.RowsAdmitted) (hc : c.Change c') : c'.RowsAdmitted :=
  forall_database_of_change Database.rowsAdmitted_new Database.rowsAdmitted_grows
    Database.rowsAdmitted_alters h hc

theorem rowsAdmitted_empty : Catalog.empty.RowsAdmitted := nofun

theorem rowsAdmitted_standard : Catalog.standard.RowsAdmitted :=
  standard_of_change rowsAdmitted_empty rowsAdmitted_change

end Catalog

end DbConsole
