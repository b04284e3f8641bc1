import DbConsole.Proofs.Catalog.Change
import DbConsole.Proofs.Catalog.Execution

namespace DbConsole.Catalog

/-- Reads and writes a catalog one step at a time. Nothing is taken back where it fails. -/
abbrev Program (ε α : Type) := EStateM ε Catalog α

namespace Program

variable {ε α β : Type}

def look (f : Catalog → Except ε α) : Program ε α := fun c =>
  match f c with
  | .ok a => .ok a c
  | .error e => .error e c

def refuseIf (b : Prop) [Decidable b] (e : ε) : Program ε Unit :=
  if b then throw e else pure ()

def refuseAny (o : Option α) (e : α → ε) : Program ε Unit :=
  match o with
  | some a => throw (e a)
  | none => pure ()

def write (f : Catalog → Catalog) : Program ε Unit := fun c => .ok () (f c)

def allocate : Program ε Oid := fun c => .ok c.freshOid c.advance

/-- What an operation that changes nothing where it fails comes to. -/
def ofExcept (c : Catalog) : Except ε (α × Catalog) → EStateM.Result ε Catalog α
  | .ok (a, c') => .ok a c'
  | .error e => .error e c

variable {c : Catalog}

theorem look_bind {f : Catalog → Except ε α} {k : α → Program ε β}
    {g : α → Except ε (β × Catalog)} (h : ∀ a, f c = .ok a → k a c = ofExcept c (g a)) :
    (look f >>= k) c = ofExcept c (f c >>= g) := by
  simp only [bind, EStateM.bind, look]
  cases hf : f c with
  | error e => rfl
  | ok a => exact h a hf

theorem look_bind_of_ok {f : Catalog → Except ε α} {a : α} (h : f c = .ok a)
    (k : α → Program ε β) : (look f >>= k) c = k a c := by
  simp only [bind, EStateM.bind, look, h]

theorem refuseIf_bind {b : Prop} [Decidable b] {e : ε} {k : Unit → Program ε β}
    {x : Except ε (β × Catalog)} (h : ¬b → k () c = ofExcept c x) :
    (refuseIf b e >>= k) c = ofExcept c (if b then .error e else x) := by
  unfold refuseIf
  by_cases hb : b
  · rw [if_pos hb, if_pos hb]
    rfl
  · rw [if_neg hb, if_neg hb]
    exact h hb

end Program

open Program

def placingServer (g s : UInt32) (name : String) : Program CatalogError Unit := do
  let servers ← look (·.group g)
  write fun c => { c with groups := c.groups.insert g (servers.insert s ⟨name, true, .empty⟩) }

def creatingDatabase (g s : UInt32) (name : String) : Program CatalogError UInt32 := do
  let _ ← look (·.server g s)
  let oid ← allocate
  let publicOid ← allocate
  let _ ← look (·.server g s)
  write (·.putDatabase ⟨g, s, oid⟩ (.new name publicOid))
  return oid

def creatingSchema (p : DatabasePath) (name : String) : Program CatalogError Oid := do
  let db ← look (·.database p)
  refuseIf (db.schemaOid name).isOk (.duplicate (.schema name))
  let oid ← allocate
  let db ← look (·.database p)
  write (·.putDatabase p { db with schemas := db.schemas.insert oid name })
  return oid

def creatingRelation (p : DatabasePath) (d : RelationDraft) : Program CatalogError Oid := do
  let db ← look (·.database p)
  let schemaOid ← look fun _ => db.schemaOid d.schema
  refuseIf (db.relations.values.any fun r =>
    r.relation.schemaOid = schemaOid && r.relation.name.name = d.name)
    (.duplicate (.relation d.name))
  refuseAny d.missingKey? .undefinedColumn
  let oid ← allocate
  let db ← look (·.database p)
  write (·.putDatabase p (db.putStored oid ⟨d.relation oid schemaOid, [], true⟩))
  return oid

/-- The view is created like any other relation, and marked as filled or not after that. -/
def creatingMaterializedView (p : DatabasePath) (schema name : String) (columns : List Column)
    (populated : Bool) : Program CatalogError Oid := do
  let oid ← creatingRelation p ⟨schema, name, .materializedView, columns, []⟩
  let db ← look (·.database p)
  let r ← look fun _ => db.relation oid
  write (·.putDatabase p (db.putStored oid { r with populated }))
  return oid

def refreshing (p : DatabasePath) (oid : Oid) (rows : List Row) : Program CatalogError Unit := do
  let db ← look (·.database p)
  let r ← look fun _ => db.relationAs oid .materializedView
  write (·.putDatabase p (db.putStored oid { r with rows }))
  write (·.putDatabase p (db.putStored oid { r with rows, populated := true }))

/-- Goes through new rows, and remembers the keys of those that it has come by. -/
def checking (r : Relation) (taken : List (List String)) : List Row → Program InsertError Unit
  | [] => return
  | row :: rest => do
    let key ← look fun _ => (StoredRelation.accept r taken row).mapError fun e =>
      .refused (.refused e)
    checking r (key :: taken) rest

def inserting (p : DatabasePath) (oid : Oid) (rows : List Row) : Program InsertError Nat := do
  let db ← look fun c => (c.database p).mapError .refused
  let r ← look fun _ => (db.relation oid).mapError .refused
  let taken ← look fun _ => (r.rows.mapM r.relation.key?).elim (.error .shortStoredRow) .ok
  checking r.relation taken rows
  write (·.putDatabase p (db.putStored oid { r with rows := r.rows ++ rows }))
  return rows.length

def creatingTrigger (p : DatabasePath) (tableOid : Oid) (name function : String) :
    Program CatalogError Oid := do
  let db ← look (·.database p)
  let table ← look fun _ => db.relation tableOid
  let table := table.relation
  refuseIf (table.kind ≠ .table) (.refused (.notTable table.name.name))
  refuseIf (db.triggerNameTaken tableOid name none) (.duplicate (.trigger name table.name.name))
  let oid ← allocate
  let db ← look (·.database p)
  write (·.putDatabase p (db.putTrigger oid (table.newTrigger oid tableOid name function)))
  return oid

def settingAvailable (g s : UInt32) (available : Bool) : Program CatalogError Unit := do
  let _ ← look (·.server g s)
  write (·.modifyServer g s fun server => { server with available })

variable {c : Catalog} {p : DatabasePath}

/-- A number that is given out leaves a database where it was found. -/
theorem look_database_advance {α : Type} {db : Database} (hp : c.database p = .ok db)
    (k : Database → Program CatalogError α) :
    (look (·.database p) >>= k) c.advance = k db c.advance := by
  have hagain : c.advance.database p = .ok db := hp
  exact look_bind_of_ok (f := fun c => c.database p) hagain k

theorem placingServer_eq (c : Catalog) (g s : UInt32) (name : String) :
    placingServer g s name c = ofExcept c ((c.placeServer g s name).map fun c => ((), c)) := by
  refine (look_bind fun servers hs => ?_).trans (congrArg _ (map_bind _ _ _).symm)
  rfl

theorem settingAvailable_eq (c : Catalog) (g s : UInt32) (available : Bool) :
    settingAvailable g s available c =
      ofExcept c ((c.setAvailable g s available).map fun c => ((), c)) := by
  refine (look_bind fun server hs => ?_).trans (congrArg _ (map_bind _ _ _).symm)
  rfl

theorem creatingDatabase_eq (c : Catalog) (g s : UInt32) (name : String) :
    creatingDatabase g s name c = ofExcept c (c.createDatabase g s name) := by
  refine look_bind fun server hs => ?_
  -- Two numbers have been given out when the server is looked up again.
  have hagain : c.advance.advance.server g s = .ok server := hs
  exact look_bind_of_ok hagain _

theorem creatingSchema_eq (c : Catalog) (p : DatabasePath) (name : String) :
    creatingSchema p name c = ofExcept c (c.createSchema p name) := by
  refine look_bind fun db hp => ?_
  refine refuseIf_bind fun _ => ?_
  exact look_database_advance hp _

theorem creatingRelation_bind {d : RelationDraft} {k : Oid → Program CatalogError Oid}
    {populated : Bool}
    (h : ∀ db schemaOid, c.database p = .ok db →
      k c.freshOid (c.advance.putDatabase p
          (db.putStored c.freshOid ⟨d.relation c.freshOid schemaOid, [], true⟩)) =
        .ok c.freshOid (c.advance.putDatabase p
          (db.putStored c.freshOid ⟨d.relation c.freshOid schemaOid, [], populated⟩))) :
    (creatingRelation p d >>= k) c = ofExcept c (c.createStored p d populated) := by
  unfold creatingRelation
  simp only [bind_assoc]
  refine look_bind fun db hp => ?_
  refine look_bind fun schemaOid hs => ?_
  refine refuseIf_bind fun _ => ?_
  cases hk : d.missingKey? with
  | some k => rfl
  | none => exact (look_database_advance hp _).trans (h db schemaOid hp)

theorem creatingRelation_eq (c : Catalog) (p : DatabasePath) (d : RelationDraft) :
    creatingRelation p d c = ofExcept c (c.createRelation p d) := by
  rw [← bind_pure (creatingRelation p d)]
  exact creatingRelation_bind fun _ _ _ => rfl

theorem creatingMaterializedView_eq (c : Catalog) (p : DatabasePath) (schema name : String)
    (columns : List Column) (populated : Bool) :
    creatingMaterializedView p schema name columns populated c =
      ofExcept c (c.createMaterializedView p schema name columns populated) := by
  refine creatingRelation_bind fun db schemaOid hp => ?_
  -- The relation is there by now, so the second write finds it.
  refine (look_bind_of_ok (database_putDatabase_self hp _) _).trans ?_
  refine (look_bind_of_ok (Database.relation_putStored_self db c.freshOid _) _).trans ?_
  change EStateM.Result.ok c.freshOid ((c.advance.putDatabase p _).putDatabase p _) = _
  rw [putDatabase_putDatabase, Database.putStored_putStored]

theorem refreshing_eq (c : Catalog) (p : DatabasePath) (oid : Oid) (rows : List Row) :
    refreshing p oid rows c = ofExcept c ((c.refresh p oid rows).map fun c => ((), c)) := by
  refine (look_bind fun db hp => ?_).trans (congrArg _ (map_bind _ _ _).symm)
  refine (look_bind fun r hr => ?_).trans (congrArg _ (map_bind _ _ _).symm)
  change EStateM.Result.ok () ((c.putDatabase p _).putDatabase p _) = .ok () (c.putDatabase p _)
  rw [putDatabase_putDatabase]

theorem checking_eq (r : Relation) (taken : List (List String)) (rows : List Row) (c : Catalog) :
    checking r taken rows c =
      match StoredRelation.acceptAll r taken rows with
      | .ok () => .ok () c
      | .error e => .error (.refused (.refused e)) c := by
  induction rows generalizing taken with
  | nil => rfl
  | cons row rest ih =>
    unfold checking StoredRelation.acceptAll
    cases StoredRelation.accept r taken row with
    | error e => rfl
    | ok key => exact ih (key :: taken)

theorem inserting_eq (c : Catalog) (p : DatabasePath) (oid : Oid) (rows : List Row) :
    inserting p oid rows c = ofExcept c (c.insert p oid rows) := by
  refine look_bind fun db hp => ?_
  refine look_bind fun r hr => ?_
  unfold StoredRelation.insert
  cases hk : r.rows.mapM r.relation.key? with
  | none => rfl
  | some taken =>
    change (checking r.relation taken rows >>= _) c = _
    simp only [bind, EStateM.bind, checking_eq]
    cases StoredRelation.acceptAll r.relation taken rows <;> rfl

theorem creatingTrigger_eq (c : Catalog) (p : DatabasePath) (tableOid : Oid)
    (name function : String) :
    creatingTrigger p tableOid name function c =
      ofExcept c (c.createTrigger p tableOid name function) := by
  refine look_bind fun db hp => ?_
  refine look_bind fun table ht => ?_
  refine refuseIf_bind fun _ => ?_
  refine refuseIf_bind fun _ => ?_
  exact look_database_advance hp _

end DbConsole.Catalog
