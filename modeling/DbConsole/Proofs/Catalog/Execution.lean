import DbConsole.Proofs.Catalog.Statement

namespace DbConsole

/-- What comes of statements that are applied one after the other, up to the first that fails. -/
inductive Database.Applies : Database → List Statement → Except CatalogError Database → Prop where
  | done (db : Database) : Applies db [] (.ok db)
  | failed (db : Database) (statement : Statement) (rest : List Statement) (e : CatalogError)
    (h : db.apply statement = .error e) : Applies db (statement :: rest) (.error e)
  | next (db db' : Database) (statement : Statement) (rest : List Statement)
    (result : Except CatalogError Database) (h : db.apply statement = .ok db')
    (hr : Applies db' rest result) : Applies db (statement :: rest) result

namespace Database

theorem applies_applyAll (db : Database) (statements : List Statement) :
    db.Applies statements (db.applyAll statements) := by
  induction statements generalizing db with
  | nil => exact .done db
  | cons statement rest ih =>
    cases h : db.apply statement with
    | error e =>
      have he : db.applyAll (statement :: rest) = .error e := by
        unfold applyAll
        rw [List.foldlM_cons, h]
        rfl
      rw [he]
      exact .failed db statement rest e h
    | ok db' =>
      have he : db.applyAll (statement :: rest) = db'.applyAll rest := by
        unfold applyAll
        rw [List.foldlM_cons, h]
        rfl
      rw [he]
      exact .next db db' statement rest _ h (ih db')

end Database

namespace Statement

def relation? : Statement → Option Oid
  | .comment (.relation oid ..) _ | .setOptions oid .. | .resetOptions oid .. => some oid
  | .comment (.trigger ..) _ | .setTriggerMode .. | .renameTrigger .. => none

def trigger? : Statement → Option Oid
  | .comment (.trigger oid ..) _ | .setTriggerMode oid .. | .renameTrigger oid .. => some oid
  | .comment (.relation ..) _ | .setOptions .. | .resetOptions .. => none

end Statement

/-- What no statement changes of a relation and its rows. -/
def StoredRelation.core (s : StoredRelation) : StoredRelation :=
  { s with relation := s.relation.core }

/-- What no statement changes of a trigger. -/
def Trigger.core (t : Trigger) : Trigger :=
  { t with name := "", mode := .origin, description := none }

namespace Database

/-- What is left as it was by statements about certain relations and triggers: of these, all but
what statements can change, and of a database everything else. -/
structure Frame (statements : List Statement) (db db' : Database) : Prop where
  name : db'.name = db.name
  schemas : db'.schemas = db.schemas
  relations : db'.relations.map (·.core) = db.relations.map (·.core)
  triggers : db'.triggers.map (·.core) = db.triggers.map (·.core)
  otherRelations : ∀ oid, (∀ s ∈ statements, s.relation? ≠ some oid) →
    db'.relations.find? oid = db.relations.find? oid
  otherTriggers : ∀ oid, (∀ s ∈ statements, s.trigger? ≠ some oid) →
    db'.triggers.find? oid = db.triggers.find? oid

variable {db db' db'' : Database} {statements more : List Statement} {statement : Statement}
  {oid : Oid}

theorem Frame.refl (db : Database) : db.Frame [] db where
  name := rfl
  schemas := rfl
  relations := rfl
  triggers := rfl
  otherRelations _ _ := rfl
  otherTriggers _ _ := rfl

theorem Frame.trans (h : db.Frame statements db') (h' : db'.Frame more db'') :
    db.Frame (statements ++ more) db'' where
  name := h'.name.trans h.name
  schemas := h'.schemas.trans h.schemas
  relations := h'.relations.trans h.relations
  triggers := h'.triggers.trans h.triggers
  otherRelations oid hn :=
    (h'.otherRelations oid fun s hs => hn s (List.mem_append_right _ hs)).trans
      (h.otherRelations oid fun s hs => hn s (List.mem_append_left _ hs))
  otherTriggers oid hn :=
    (h'.otherTriggers oid fun s hs => hn s (List.mem_append_right _ hs)).trans
      (h.otherTriggers oid fun s hs => hn s (List.mem_append_left _ hs))

theorem frame_putRelation {stored : StoredRelation} {r : Relation}
    (hf : db.relations.find? oid = some stored) (hr : r.core = stored.relation.core)
    (ho : statement.relation? = some oid) :
    db.Frame [statement] (db.putRelation oid stored r) where
  name := rfl
  schemas := rfl
  relations := SortedMap.map_insert_of_eq hf (by simp [StoredRelation.core, hr])
  triggers := rfl
  otherRelations o hn := by
    have hne : o ≠ oid := by
      rintro rfl
      exact hn statement (.head _) ho
    simp [putRelation, putStored, SortedMap.find?_insert, hne]
  otherTriggers _ _ := rfl

theorem frame_putTrigger {t t' : Trigger} (hf : db.triggers.find? oid = some t)
    (ht : t'.core = t.core) (ho : statement.trigger? = some oid) :
    db.Frame [statement] (db.putTrigger oid t') where
  name := rfl
  schemas := rfl
  relations := rfl
  triggers := SortedMap.map_insert_of_eq hf ht
  otherRelations _ _ := rfl
  otherTriggers o hn := by
    have hne : o ≠ oid := by
      rintro rfl
      exact hn statement (.head _) ho
    simp [putTrigger, SortedMap.find?_insert, hne]

theorem frame_of_apply (h : db.apply statement = .ok db') : db.Frame [statement] db' := by
  cases statement with
  | comment target text =>
    cases target with
    | relation oid kind name =>
      obtain ⟨r, hr, h⟩ := bind_eq_ok.mp h
      cases h
      exact frame_putRelation (relationAs_eq_ok.mp hr).1 rfl rfl
    | trigger oid name table =>
      obtain ⟨t, ht, h⟩ := bind_eq_ok.mp h
      cases h
      exact frame_putTrigger (trigger_eq_ok.mp ht) rfl rfl
  | setTriggerMode oid trigger table mode =>
    obtain ⟨t, ht, h⟩ := bind_eq_ok.mp h
    cases h
    exact frame_putTrigger (trigger_eq_ok.mp ht) rfl rfl
  | renameTrigger oid table old new =>
    obtain ⟨t, ht, h⟩ := bind_eq_ok.mp h
    dsimp only at h
    split at h
    · obtain ⟨_, _, h⟩ := bind_eq_ok.mp h
      cases h
    · cases h
      exact frame_putTrigger (trigger_eq_ok.mp ht) rfl rfl
  | setOptions oid kind relation options =>
    obtain ⟨r, hr, h⟩ := bind_eq_ok.mp h
    dsimp only at h
    split at h
    · cases h
      exact frame_putRelation (relationAs_eq_ok.mp hr).1 rfl rfl
    · cases h
  | resetOptions oid kind relation options =>
    obtain ⟨r, hr, h⟩ := bind_eq_ok.mp h
    cases h
    exact frame_putRelation (relationAs_eq_ok.mp hr).1 rfl rfl

theorem Applies.frame {result : Except CatalogError Database}
    (h : db.Applies statements result) (hr : result = .ok db') : db.Frame statements db' := by
  induction h with
  | done db =>
    cases hr
    exact .refl _
  | failed => cases hr
  | next db db₁ statement rest result ha _ ih => exact (frame_of_apply ha).trans (ih hr)

end Database

namespace Catalog

/-- Nothing but the database at a path has changed, and no number has been given out. -/
structure Beyond (p : DatabasePath) (c c' : Catalog) : Prop where
  nextOid : c'.nextOid = c.nextOid
  servers : ∀ g s, (c'.server? g s).map (fun server => (server.name, server.available)) =
    (c.server? g s).map fun server => (server.name, server.available)
  databases : ∀ q, q ≠ p → c'.database q = c.database q

variable {c : Catalog} {p q : DatabasePath} {db : Database}

theorem database_putDatabase_of_ne (hq : q ≠ p) (db : Database) :
    (c.putDatabase p db).database q = c.database q := by
  simp only [database_eq, putDatabase, modifyServer, SortedMap.find?_modify]
  by_cases hg : q.group = p.group
  · cases hgroup : c.groups.find? q.group with
    | none => simp
    | some servers =>
      by_cases hs : q.server = p.server
      · have hd : q.database ≠ p.database := by
          intro hd
          apply hq
          cases q
          cases p
          rw [DatabasePath.mk.injEq]
          exact ⟨hg, hs, hd⟩
        cases hserver : servers.find? q.server <;>
          simp only [if_pos hg, if_pos hs, if_neg hd, Option.map_some, Option.map_none,
            SortedMap.find?_modify, SortedMap.find?_insert, hserver]
      · simp [hg, SortedMap.find?_modify, hs]
  · simp [hg]

theorem beyond_putDatabase (c : Catalog) (p : DatabasePath) (db : Database) :
    c.Beyond p (c.putDatabase p db) where
  nextOid := rfl
  servers g s := by
    unfold putDatabase
    rw [server?_modifyServer]
    split
    · rw [Option.map_map]
      rfl
    · rfl
  databases _ hq := database_putDatabase_of_ne hq db

theorem putDatabase_putDatabase (c : Catalog) (p : DatabasePath) (db db' : Database) :
    (c.putDatabase p db).putDatabase p db' = c.putDatabase p db' := by
  unfold putDatabase modifyServer
  simp only [SortedMap.modify_modify, SortedMap.insert_insert]

theorem execute_eq (hp : c.database p = .ok db) (statements : List Statement) :
    c.execute p statements = (db.applyAll statements).map (c.putDatabase p) := by
  unfold execute
  rw [hp]
  cases h : db.applyAll statements with
  | error e => simp [h, bind, Except.bind, Except.map]
  | ok db' => simp [h, bind, Except.bind, Except.map, pure, Except.pure]

theorem database_putDatabase_self (hp : c.database p = .ok db) (db' : Database) :
    (c.putDatabase p db').database p = .ok db' := by
  obtain ⟨server, hs, _⟩ := server?_of_database? (database_eq_ok.mp hp)
  rw [database_eq_ok, database?_putDatabase hs, if_pos rfl]

theorem execute_append (c : Catalog) (p : DatabasePath) (statements more : List Statement) :
    c.execute p (statements ++ more) =
      c.execute p statements >>= fun c => c.execute p more := by
  cases hp : c.database p with
  | error e =>
    unfold execute
    rw [hp]
    rfl
  | ok db =>
    have ha : db.applyAll (statements ++ more) =
        db.applyAll statements >>= fun db => db.applyAll more := List.foldlM_append
    rw [execute_eq hp, execute_eq hp, ha]
    cases db.applyAll statements with
    | error e => rfl
    | ok db' =>
      change (db'.applyAll more).map (c.putDatabase p) = (c.putDatabase p db').execute p more
      rw [execute_eq (database_putDatabase_self hp db')]
      simp only [putDatabase_putDatabase, funext]

end Catalog

end DbConsole
