import DbConsole.Proofs.Catalog.Execution
import DbConsole.Proofs.Catalog.WellFormed
import DbConsole.Update.Relation

namespace DbConsole

namespace Database

/-- Objects are found under their own numbers, and no comment on a relation is empty. -/
structure Tidy (db : Database) : Prop where
  relationOid : ∀ {oid stored}, db.relations.find? oid = some stored → stored.relation.oid = oid
  relationComment : ∀ {oid stored}, db.relations.find? oid = some stored →
    stored.relation.description ≠ some ""
  triggerOid : ∀ {oid t}, db.triggers.find? oid = some t → t.oid = oid

variable {db db' : Database} {oid : Oid}

theorem tidy_new (name : String) (publicOid : Oid) : (Database.new name publicOid).Tidy :=
  ⟨nofun, nofun, nofun⟩

theorem tidy_putStored (h : db.Tidy) {s : StoredRelation} (ho : s.relation.oid = oid)
    (hc : s.relation.description ≠ some "") : (db.putStored oid s).Tidy where
  relationOid {o s'} hf := by
    simp only [putStored, SortedMap.find?_insert] at hf
    split at hf
    · next he =>
      cases hf
      rw [ho, he]
    · exact h.relationOid hf
  relationComment {o s'} hf := by
    simp only [putStored, SortedMap.find?_insert] at hf
    split at hf
    · cases hf
      exact hc
    · exact h.relationComment hf
  triggerOid := h.triggerOid

theorem tidy_putTrigger (h : db.Tidy) {t : Trigger} (ho : t.oid = oid) :
    (db.putTrigger oid t).Tidy where
  relationOid := h.relationOid
  relationComment := h.relationComment
  triggerOid {o t'} hf := by
    simp only [putTrigger, SortedMap.find?_insert] at hf
    split at hf
    · next he =>
      cases hf
      rw [ho, he]
    · exact h.triggerOid hf

theorem tidy_redescribed (h : db.Tidy) (hd : db.Redescribed db') : db'.Tidy := by
  cases hd with
  | relation oid stored r hf hr =>
    refine tidy_putStored h ((Relation.core_eq_iff.mp hr.core).1.trans (h.relationOid hf)) ?_
    rcases hr.description with he | hne
    · exact he ▸ h.relationComment hf
    · exact hne
  | trigger oid t t' hf ht =>
    have ho := h.triggerOid hf
    exact tidy_putTrigger h ((ht ho).oid.trans ho)

theorem tidy_alters (h : db.Tidy) (hd : db.Alters db') : db'.Tidy := by
  cases hd with
  | refresh oid r rows hr hk =>
    have ho := h.relationOid hr
    have hc := h.relationComment hr
    exact tidy_putStored h ho hc
  | insert oid r r' rows hr hi =>
    have he := StoredRelation.relation_insert hi
    exact tidy_putStored h (he ▸ h.relationOid hr) (he ▸ h.relationComment hr)
  | execute statements _ hd => exact applyAll_preserves tidy_redescribed hd h

theorem tidy_grows (h : db.Tidy) (hd : db.Grows oid db') : db'.Tidy := by
  cases hd with
  | schema => exact ⟨h.relationOid, h.relationComment, h.triggerOid⟩
  | relation => exact tidy_putStored h rfl nofun
  | trigger => exact tidy_putTrigger h rfl

end Database

namespace Catalog

variable {c c' : Catalog} {p : DatabasePath} {db : Database}

def Tidy (c : Catalog) : Prop := ∀ p db, c.database? p = some db → db.Tidy

theorem tidy_change (h : c.Tidy) (hc : c.Change c') : c'.Tidy :=
  forall_database_of_change Database.tidy_new Database.tidy_grows Database.tidy_alters h hc

theorem tidy_empty : Catalog.empty.Tidy := nofun

theorem tidy_standard : Catalog.standard.Tidy := standard_of_change tidy_empty tidy_change

theorem putDatabase_self (h : c.database p = .ok db) : c.putDatabase p db = c := by
  obtain ⟨server, hs, hd⟩ := server?_of_database? (database_eq_ok.mp h)
  obtain ⟨servers, hg, hs⟩ := Option.bind_eq_some_iff.mp hs
  unfold putDatabase modifyServer
  rw [SortedMap.modify_eq_insert _ hg, SortedMap.modify_eq_insert _ hs,
    SortedMap.insert_self hd, SortedMap.insert_self hs, SortedMap.insert_self hg]

end Catalog

theorem Relation.eq_of_core {r r' : Relation} (h : r'.core = r.core) :
    r' = { r with description := r'.description, options := r'.options } := by
  obtain ⟨ho, hs, hn, hk, hc, hp⟩ := core_eq_iff.mp h
  cases r'
  cases ho
  cases hs
  cases hn
  cases hk
  cases hc
  cases hp
  rfl

namespace Database

variable {db db' : Database} {statements : List Statement} {oid : Oid}

theorem Frame.putRelation (h : db.Frame statements db')
    (ho : ∀ s ∈ statements, s.relation? = some oid ∧ s.trigger? = none)
    {stored : StoredRelation} (hf : db.relations.find? oid = some stored) :
    ∃ description options,
      db' = db.putRelation oid stored { stored.relation with description, options } := by
  have hcore := congrArg (·.find? oid) h.relations
  simp only [SortedMap.find?_map, hf, Option.map_some, Option.map_eq_some_iff] at hcore
  obtain ⟨stored', hf', hcore⟩ := hcore
  rw [StoredRelation.core, StoredRelation.core, StoredRelation.mk.injEq] at hcore
  obtain ⟨hr, hrows, hpopulated⟩ := hcore
  have hstored : stored' = { stored with relation := { stored.relation with
      description := stored'.relation.description, options := stored'.relation.options } } := by
    rw [← Relation.eq_of_core hr, ← hrows, ← hpopulated]
  have hrelations := SortedMap.eq_insert (hstored ▸ hf') fun o hne => h.otherRelations o fun s hs =>
    (ho s hs).1 ▸ fun he => hne (Option.some.inj he).symm
  have htriggers : db'.triggers = db.triggers := SortedMap.ext_find? fun o =>
    h.otherTriggers o fun s hs => by simp [(ho s hs).2]
  refine ⟨stored'.relation.description, stored'.relation.options, ?_⟩
  obtain ⟨name', schemas', relations', triggers'⟩ := db'
  rw [Database.putRelation, putStored, Database.mk.injEq]
  exact ⟨h.name, h.schemas, hrelations, htriggers⟩

end Database

namespace Database

structure OnlyRelation (db : Database) (oid : Oid) (s : StoredRelation) (db' : Database) :
    Prop where
  name : db'.name = db.name
  schemas : db'.schemas = db.schemas
  triggers : db'.triggers = db.triggers
  relation : db'.relations.find? oid = some s
  relations : ∀ o, o ≠ oid → db'.relations.find? o = db.relations.find? o

/-- Nothing but the trigger under a number is another one, and that is `t`. -/
structure OnlyTrigger (db : Database) (oid : Oid) (t : Trigger) (db' : Database) : Prop where
  name : db'.name = db.name
  schemas : db'.schemas = db.schemas
  relations : db'.relations = db.relations
  trigger : db'.triggers.find? oid = some t
  triggers : ∀ o, o ≠ oid → db'.triggers.find? o = db.triggers.find? o

theorem onlyRelation_putStored (db : Database) (oid : Oid) (s : StoredRelation) :
    db.OnlyRelation oid s (db.putStored oid s) where
  name := rfl
  schemas := rfl
  triggers := rfl
  relation := by simp [putStored, SortedMap.find?_insert]
  relations o hne := by simp [putStored, SortedMap.find?_insert, hne]

theorem onlyTrigger_putTrigger (db : Database) (oid : Oid) (t : Trigger) :
    db.OnlyTrigger oid t (db.putTrigger oid t) where
  name := rfl
  schemas := rfl
  relations := rfl
  trigger := by simp [putTrigger, SortedMap.find?_insert]
  triggers o hne := by simp [putTrigger, SortedMap.find?_insert, hne]

end Database

variable {statements : List Statement} {s : Statement}

theorem RelationUpdate.optionStatements_eq (r : Relation) (c : OptionChanges) :
    optionStatements r c =
      if c.set ≠ [] ∧ r.kind.hasParameters = false then
        .error (.noStorage r.kind r.name.name)
      else .ok ((if c.set = [] then [] else [.setOptions r.oid r.kind r.name c.set]) ++
        if c.reset = [] then [] else [.resetOptions r.oid r.kind r.name c.reset]) := by
  unfold optionStatements
  cases r.kind.hasParameters <;> by_cases hs : c.set = [] <;> simp [hs] <;> rfl

theorem RelationUpdate.mem_statements {u : RelationUpdate} {r : Relation}
    (h : u.statements r = .ok statements) (hs : s ∈ statements) : ∃ table toast,
      u.table.changes .table = .ok table ∧ u.toast.changes .toast = .ok toast ∧
      ((∃ text, s = .comment (.relation r.oid r.kind r.name) text) ∨
        (table ++ toast).set ≠ [] ∧
          s = .setOptions r.oid r.kind r.name (table ++ toast).set ∨
        (table ++ toast).reset ≠ [] ∧
          s = .resetOptions r.oid r.kind r.name (table ++ toast).reset) := by
  obtain ⟨table, htable, h⟩ := bind_eq_ok.mp h
  obtain ⟨toast, htoast, h⟩ := bind_eq_ok.mp h
  obtain ⟨options, ho, h⟩ := bind_eq_ok.mp h
  cases h
  refine ⟨table, toast, htable, htoast, ?_⟩
  obtain hs | hs := List.mem_append.mp hs
  · obtain ⟨text, _, rfl⟩ := List.mem_map.mp hs
    exact .inl ⟨_, rfl⟩
  rw [optionStatements_eq] at ho
  split at ho
  · cases ho
  cases ho
  obtain hs | hs := List.mem_append.mp hs
  · split at hs
    · cases hs
    · next hne => exact .inr (.inl ⟨hne, List.mem_singleton.mp hs⟩)
  · split at hs
    · cases hs
    · next hne => exact .inr (.inr ⟨hne, List.mem_singleton.mp hs⟩)

theorem RelationUpdate.about_of_mem {u : RelationUpdate} {r : Relation}
    (h : u.statements r = .ok statements) (hs : s ∈ statements) :
    s.relation? = some r.oid ∧ s.trigger? = none := by
  obtain ⟨_, _, _, _, ⟨_, rfl⟩ | ⟨_, rfl⟩ | ⟨_, rfl⟩⟩ := mem_statements h hs
  · exact ⟨rfl, rfl⟩
  · exact ⟨rfl, rfl⟩
  · exact ⟨rfl, rfl⟩

end DbConsole
