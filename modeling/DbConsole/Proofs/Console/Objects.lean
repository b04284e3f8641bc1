import DbConsole.Proofs.Catalog.Objects
import DbConsole.Proofs.Console.Catalog
import DbConsole.Proofs.Console.Execution
import DbConsole.Proofs.Console.Opening
import DbConsole.Proofs.Update.Trigger

namespace DbConsole

namespace Catalog

variable {c : Catalog} {p : DatabasePath} {db : Database}

/-- A relation of a kind in a schema of a database, on a server that lets connections in. -/
structure Holds (c : Catalog) (p : DatabasePath) (schemaOid oid : Oid) (kind : RelationKind)
    (db : Database) (stored : StoredRelation) : Prop where
  serves : c.Serves p db
  found : db.relations.find? oid = some stored
  schema : stored.relation.schemaOid = schemaOid
  kind : stored.relation.kind = kind

/-- A trigger of a table that is in a schema of a database. -/
structure HoldsTrigger (c : Catalog) (p : DatabasePath) (schemaOid tableOid oid : Oid)
    (db : Database) (t : Trigger) : Prop where
  table : ∃ stored, c.Holds p schemaOid tableOid .table db stored
  found : db.triggers.find? oid = some t
  owner : t.tableOid = tableOid

theorem HoldsTrigger.serves {schemaOid tableOid oid : Oid} {t : Trigger}
    (h : c.HoldsTrigger p schemaOid tableOid oid db t) : c.Serves p db := by
  obtain ⟨_, h⟩ := h.table
  exact h.serves

theorem Serves.database (h : c.Serves p db) : c.database p = .ok db := by
  obtain ⟨server, hs, _, hd⟩ := h
  exact database_eq_ok.mpr (Option.bind_eq_some_iff.mpr ⟨server, hs, hd⟩)

theorem serves_of_reach (h : c.reach p = .ok ()) : ∃ db, c.Serves p db := by
  rw [reach_eq] at h
  cases hg : c.groups.find? p.group with
  | none => simp [hg] at h
  | some servers =>
    cases hs : servers.find? p.server with
    | none => simp [hg, hs] at h
    | some server =>
      cases hd : server.databases.find? p.database with
      | none => cases ha : server.available <;> simp [hg, hs, hd, ha] at h
      | some db =>
        refine ⟨db, server, ?_, ?_, hd⟩
        · simp [server?, hg, hs]
        · simpa [hg, hs, hd] using h

theorem trigger_eq_ok {tableOid oid : Oid} {t : Trigger} (hd : c.database p = .ok db) :
    c.trigger p tableOid oid = .ok t ↔ db.triggers.find? oid = some t ∧ t.tableOid = tableOid := by
  unfold Catalog.trigger
  rw [hd]
  change db.triggerOf tableOid oid = .ok t ↔ _
  unfold Database.triggerOf Database.trigger
  cases hf : db.triggers.find? oid with
  | none => simp [bind, Except.bind]
  | some t' =>
    by_cases ho : t'.tableOid = tableOid
    · simp [bind, Except.bind, pure, Except.pure, ho]
      rintro rfl
      exact ho
    · simp [bind, Except.bind, throw, throwThe, MonadExceptOf.throw, ho]
      rintro rfl
      exact ho

theorem exists_holds {oid : Oid} {r : Relation} (hr : c.reach p = .ok ())
    (h : c.relation p oid = .ok r) :
    ∃ db stored, c.Holds p r.schemaOid oid r.kind db stored ∧ stored.relation = r := by
  obtain ⟨db, hs⟩ := serves_of_reach hr
  rw [hs.relation] at h
  cases hf : db.relation oid with
  | error e => simp [hf, Except.map] at h
  | ok stored =>
    rw [hf] at h
    cases h
    exact ⟨db, stored, ⟨hs, Database.relation_eq_ok.mp hf, rfl, rfl⟩, rfl⟩

end Catalog

theorem Faults.strike_eq_ok {α : Type} {fault : Option CatalogError} {x : Except CatalogError α}
    {a : α} : strike fault x = .ok a ↔ fault = .none ∧ x = .ok a := by
  cases fault <;> simp [strike]

namespace Console

variable {c c' : Console} {p : DatabasePath} {schemaOid tableOid oid : Oid} {kind : RelationKind}
  {db : Database} {r : Relation} {t : Trigger}

theorem relation_eq_ok (hs : c.catalog.Serves p db) : c.relation ⟨p⟩ oid = .ok r ↔
    c.faults.relation = .none ∧
      ∃ stored, db.relations.find? oid = some stored ∧ stored.relation = r := by
  unfold Console.relation
  rw [Faults.strike_eq_ok, hs.relation]
  refine and_congr_right fun _ => ?_
  unfold Database.relation
  cases db.relations.find? oid <;> simp [Except.map]

theorem relationIn_eq_ok (hs : c.catalog.Serves p db) :
    c.relationIn ⟨p⟩ schemaOid oid kind = .ok r ↔ c.faults.relation = .none ∧
      ∃ stored, c.catalog.Holds p schemaOid oid kind db stored ∧ stored.relation = r := by
  constructor
  · intro h
    obtain ⟨r', hr, h⟩ := bind_eq_ok.mp h
    obtain ⟨hf, stored, hfound, rfl⟩ := (relation_eq_ok hs).mp hr
    split at h
    · next hk =>
      cases h
      exact ⟨hf, stored, ⟨hs, hfound, hk.1, hk.2⟩, rfl⟩
    · cases h
  · rintro ⟨hf, stored, h, rfl⟩
    refine bind_eq_ok.mpr ⟨_, (relation_eq_ok hs).mpr ⟨hf, stored, h.found, rfl⟩, ?_⟩
    rw [if_pos ⟨h.schema, h.kind⟩]
    rfl

theorem trigger_eq_ok (hd : c.catalog.database p = .ok db) : c.trigger ⟨p⟩ tableOid oid = .ok t ↔
    c.faults.trigger = .none ∧ db.triggers.find? oid = some t ∧ t.tableOid = tableOid := by
  unfold Console.trigger
  rw [Faults.strike_eq_ok, Catalog.trigger_eq_ok hd]

theorem triggerIn_eq_ok (hs : c.catalog.Serves p db) :
    c.triggerIn ⟨p⟩ schemaOid tableOid oid = .ok t ↔ c.faults.relation = .none ∧
      c.faults.trigger = .none ∧ c.catalog.HoldsTrigger p schemaOid tableOid oid db t := by
  constructor
  · intro h
    obtain ⟨_, hr, h⟩ := bind_eq_ok.mp h
    obtain ⟨hf, stored, htable, _⟩ := (relationIn_eq_ok hs).mp hr
    obtain ⟨hft, hfound, howner⟩ := (trigger_eq_ok hs.database).mp h
    exact ⟨hf, hft, ⟨stored, htable⟩, hfound, howner⟩
  · rintro ⟨hf, hft, ⟨stored, htable⟩, hfound, howner⟩
    exact bind_eq_ok.mpr ⟨_, (relationIn_eq_ok hs).mpr ⟨hf, stored, htable, rfl⟩,
      (trigger_eq_ok hs.database).mpr ⟨hft, hfound, howner⟩⟩

theorem connect_cases (c : Console) (p : DatabasePath) : (∃ e, c.connect p = .error e) ∨
    ∃ db, c.catalog.Serves p db ∧ c.faults.connect = .none := by
  cases hk : c.connect p with
  | error e => exact .inl ⟨e, rfl⟩
  | ok r =>
    obtain ⟨_, hr, _⟩ := bind_eq_ok.mp hk
    obtain ⟨hf, hr⟩ := Faults.strike_eq_ok.mp hr
    obtain ⟨db, hs⟩ := Catalog.serves_of_reach hr
    exact .inr ⟨db, hs, hf⟩

variable {α : Type} {operation : Console → Connection → Except ConsoleError α × Console}

theorem withConnection_error {e : CatalogError} (h : c.connect p = .error e) :
    c.withConnection p operation = (.error (.catalog e), c) := by
  unfold withConnection
  rw [h]

theorem withConnection_served (hs : c.catalog.Serves p db) (hf : c.faults.connect = .none) :
    c.withConnection p operation =
      ((operation (c.lend 1) ⟨p⟩).1, (operation (c.lend 1) ⟨p⟩).2.release 1) := by
  have hk : c.connect p = .ok (⟨p⟩, c.lend 1) :=
    bind_eq_ok.mpr ⟨(), Faults.strike_eq_ok.mpr ⟨hf, hs.reach⟩, rfl⟩
  unfold withConnection
  rw [hk]

theorem withConnection_eq (hs : c.catalog.Serves p db) (hf : c.faults.connect = .none)
    {answer : Except ConsoleError α} (h : operation (c.lend 1) ⟨p⟩ = (answer, c'.lend 1)) :
    c.withConnection p operation = (answer, c') := by
  have hr : (c'.lend 1).release 1 = c' := release_lend c' 0 1
  rw [withConnection_served hs hf, h, hr]

theorem viewRelation_cases (c : Console) (p : DatabasePath) (schemaOid oid : Oid)
    (kind : RelationKind) :
    (∃ e, c.viewRelation p schemaOid oid kind = (.error e, c)) ∨
      ∃ db stored, c.catalog.Holds p schemaOid oid kind db stored ∧
        c.viewRelation p schemaOid oid kind = (.ok stored.relation, c) := by
  unfold viewRelation
  rcases connect_cases c p with ⟨e, hk⟩ | ⟨db, hs, hf⟩
  · exact .inl ⟨_, withConnection_error hk⟩
  cases hr : (c.lend 1).relationIn ⟨p⟩ schemaOid oid kind with
  | error e => exact .inl ⟨.catalog e, withConnection_eq hs hf (by rw [hr]; rfl)⟩
  | ok r =>
    obtain ⟨_, stored, hstored, rfl⟩ := (relationIn_eq_ok (c := c.lend 1) hs).mp hr
    exact .inr ⟨db, stored, hstored, withConnection_eq hs hf (by rw [hr]; rfl)⟩

theorem viewTrigger_cases (c : Console) (p : DatabasePath) (schemaOid tableOid oid : Oid) :
    (∃ e, c.viewTrigger p schemaOid tableOid oid = (.error e, c)) ∨
      ∃ db t, c.catalog.HoldsTrigger p schemaOid tableOid oid db t ∧
        c.viewTrigger p schemaOid tableOid oid = (.ok t, c) := by
  unfold viewTrigger
  rcases connect_cases c p with ⟨e, hk⟩ | ⟨db, hs, hf⟩
  · exact .inl ⟨_, withConnection_error hk⟩
  cases hr : (c.lend 1).triggerIn ⟨p⟩ schemaOid tableOid oid with
  | error e => exact .inl ⟨.catalog e, withConnection_eq hs hf (by rw [hr]; rfl)⟩
  | ok t =>
    obtain ⟨_, _, htrigger⟩ := (triggerIn_eq_ok (c := c.lend 1) hs).mp hr
    exact .inr ⟨db, t, htrigger, withConnection_eq hs hf (by rw [hr]; rfl)⟩

variable {statements? : Except BadRequest (List Statement)}

theorem putDatabase_self (hd : c.catalog.database p = .ok db) : c.putDatabase p db = c := by
  unfold putDatabase
  rw [Catalog.putDatabase_self hd]

theorem carryOut_eq_ok (hd : c.catalog.database p = .ok db) :
    c.carryOut ⟨p⟩ statements? = .ok c' ↔ ∃ statements db', statements? = .ok statements ∧
      (statements = [] ∨ c.faults.execute = .none) ∧ db.applyAll statements = .ok db' ∧
      c' = c.putDatabase p db' := by
  have hany : ∀ statements, c.executeAny ⟨p⟩ statements = .ok c' ↔ ∃ db',
      (statements = [] ∨ c.faults.execute = .none) ∧ db.applyAll statements = .ok db' ∧
        c' = c.putDatabase p db' := by
    intro statements
    unfold executeAny
    split
    · next he =>
      subst he
      constructor
      · intro h
        cases h
        exact ⟨db, .inl rfl, rfl, (putDatabase_self hd).symm⟩
      · rintro ⟨db', -, ha, rfl⟩
        cases ha
        rw [putDatabase_self hd]
    · next hne =>
      constructor
      · intro h
        obtain ⟨_, hx, _⟩ := bind_eq_ok.mp h
        have hf := (Faults.strike_eq_ok.mp hx).1
        rw [execute_eq hf hd] at h
        cases ha : db.applyAll statements with
        | error e => simp [ha, Except.map] at h
        | ok db' =>
          rw [ha] at h
          cases h
          exact ⟨db', .inr hf, rfl, rfl⟩
      · rintro ⟨db', hf, ha, rfl⟩
        rw [execute_eq (hf.resolve_left hne) hd, ha]
        rfl
  constructor
  · intro h
    obtain ⟨statements, hs, h⟩ := bind_eq_ok.mp h
    obtain ⟨db', hx⟩ := (hany statements).mp (mapError_eq_ok.mp h)
    exact ⟨statements, db', mapError_eq_ok.mp hs, hx⟩
  · rintro ⟨statements, db', hs, hx⟩
    exact bind_eq_ok.mpr ⟨statements, mapError_eq_ok.mpr hs,
      mapError_eq_ok.mpr ((hany statements).mpr ⟨db', hx⟩)⟩

/-- No fault stands in the way of an update, and its statements make another database of one. -/
structure Performs (c : Console) (db : Database) (statements : List Statement) (db' : Database) :
    Prop where
  connect : c.faults.connect = .none
  relation : c.faults.relation = .none
  execute : statements = [] ∨ c.faults.execute = .none
  applied : db.applyAll statements = .ok db'

variable {u : RelationUpdate} {v : TriggerUpdate} {stored : StoredRelation} {db' : Database}
  {statements : List Statement}

theorem carryOut_performs (h : c.Performs db statements db')
    (hd : c.catalog.database p = .ok db) (hs : statements? = .ok statements) :
    (c.lend 1).carryOut ⟨p⟩ statements? = .ok ((c.lend 1).putDatabase p db') :=
  (carryOut_eq_ok (c := c.lend 1) hd).mpr ⟨statements, db', hs, h.execute, h.applied, rfl⟩

theorem changeRelation_performs (hstored : c.catalog.Holds p schemaOid oid kind db stored)
    (hu : u.statements stored.relation = .ok statements) (h : c.Performs db statements db') :
    c.changeRelation p schemaOid oid kind u = (.ok stored.relation, c.putDatabase p db') := by
  have hr := (relationIn_eq_ok (c := c.lend 1) hstored.serves).mpr
    ⟨h.relation, stored, hstored, rfl⟩
  refine withConnection_eq hstored.serves h.connect ?_
  simp only [hr, carryOut_performs h hstored.serves.database hu]
  rfl

/-- An update of a relation fails and changes nothing, or it finds the relation and executes its
statements. -/
theorem changeRelation_cases (c : Console) (p : DatabasePath) (schemaOid oid : Oid)
    (kind : RelationKind) (u : RelationUpdate) :
    (∃ e, c.changeRelation p schemaOid oid kind u = (.error e, c)) ∨
      ∃ db stored statements db', c.catalog.Holds p schemaOid oid kind db stored ∧
        u.statements stored.relation = .ok statements ∧ c.Performs db statements db' := by
  obtain ⟨e, hk⟩ | ⟨db, hs, hf⟩ := connect_cases c p
  · exact .inl ⟨_, withConnection_error hk⟩
  cases hr : (c.lend 1).relationIn ⟨p⟩ schemaOid oid kind with
  | error e => exact .inl ⟨.catalog e, withConnection_eq hs hf (by simp only [hr])⟩
  | ok r =>
    obtain ⟨hfr, stored, hstored, rfl⟩ := (relationIn_eq_ok (c := c.lend 1) hs).mp hr
    cases hc : (c.lend 1).carryOut ⟨p⟩ (u.statements stored.relation) with
    | error e => exact .inl ⟨e, withConnection_eq hs hf (by simp only [hr, hc])⟩
    | ok c' =>
      obtain ⟨statements, db', hu, hx, ha, _⟩ := (carryOut_eq_ok (c := c.lend 1) hs.database).mp hc
      exact .inr ⟨db, stored, statements, db', hstored, hu, hf, hfr, hx, ha⟩

theorem changeTrigger_performs (ht : c.catalog.HoldsTrigger p schemaOid tableOid oid db t)
    (hft : c.faults.trigger = .none) (hv : v.statements t = .ok statements)
    (h : c.Performs db statements (db.putTrigger oid (v.rewritten t))) :
    c.changeTrigger p schemaOid tableOid oid v =
      ((Faults.strike c.faults.triggerAgain (.ok (v.rewritten t))).mapError .catalog,
        c.putDatabase p (db.putTrigger oid (v.rewritten t))) := by
  have hd := ht.serves.database
  have hr := (triggerIn_eq_ok (c := c.lend 1) ht.serves).mpr ⟨h.relation, hft, ht⟩
  have hthere : (c.catalog.putDatabase p (db.putTrigger oid (v.rewritten t))).trigger p tableOid
      oid = .ok (v.rewritten t) :=
    (Catalog.trigger_eq_ok (Catalog.database_putDatabase_self hd _)).mpr
      ⟨db.find?_putTrigger oid _, ht.owner⟩
  have hagain : ((c.lend 1).putDatabase p (db.putTrigger oid (v.rewritten t))).triggerAgain ⟨p⟩
      tableOid oid = Faults.strike c.faults.triggerAgain (.ok (v.rewritten t)) :=
    congrArg (Faults.strike c.faults.triggerAgain) hthere
  refine withConnection_eq ht.serves h.connect ?_
  simp only [hr, carryOut_performs h hd hv, hagain]
  rfl

/-- An update of a trigger fails and changes nothing, or it finds the trigger and executes its
statements. -/
theorem changeTrigger_cases (ht : c.catalog.Tidy) (p : DatabasePath)
    (schemaOid tableOid oid : Oid) (v : TriggerUpdate) :
    (∃ e, c.changeTrigger p schemaOid tableOid oid v = (.error e, c)) ∨
      ∃ db t statements, c.catalog.HoldsTrigger p schemaOid tableOid oid db t ∧
        c.faults.trigger = .none ∧ v.statements t = .ok statements ∧
        c.Performs db statements (db.putTrigger oid (v.rewritten t)) := by
  obtain ⟨e, hk⟩ | ⟨db, hs, hf⟩ := connect_cases c p
  · exact .inl ⟨_, withConnection_error hk⟩
  cases hr : (c.lend 1).triggerIn ⟨p⟩ schemaOid tableOid oid with
  | error e => exact .inl ⟨.catalog e, withConnection_eq hs hf (by simp only [hr])⟩
  | ok t =>
    obtain ⟨hfr, hft, htrigger⟩ := (triggerIn_eq_ok (c := c.lend 1) hs).mp hr
    cases hc : (c.lend 1).carryOut ⟨p⟩ (v.statements t) with
    | error e => exact .inl ⟨e, withConnection_eq hs hf (by simp only [hr, hc])⟩
    | ok c' =>
      obtain ⟨statements, db', hv, hx, ha, _⟩ := (carryOut_eq_ok (c := c.lend 1) hs.database).mp hc
      have ho : t.oid = oid :=
        (ht p db (Catalog.database_eq_ok.mp hs.database)).triggerOid htrigger.found
      subst ho
      obtain ⟨_, rfl⟩ := TriggerUpdate.statements_eq_ok.mp hv
      obtain ⟨_, rfl⟩ := (TriggerUpdate.applyAll_eq_ok htrigger.found).mp ha
      exact .inr ⟨db, t, _, htrigger, hft, hv, hf, hfr, hx, ha⟩

end Console

namespace Http

/-- The object that a route names is there. -/
inductive Route.Finds (c : Catalog) : Route → Prop where
  | relation (kind : RelationKind) (p : DatabasePath) (schemaOid oid : Oid) (db : Database)
    (stored : StoredRelation) (h : c.Holds p schemaOid oid kind db stored) :
    Finds c (.relation kind p schemaOid oid)
  | trigger (p : DatabasePath) (schemaOid tableOid oid : Oid) (db : Database) (t : Trigger)
    (h : c.HoldsTrigger p schemaOid tableOid oid db t) :
    Finds c (.trigger p schemaOid tableOid oid)

/-- What an update of the object that a route names may make of a catalog. -/
inductive Route.Rewrites (c c' : Catalog) : Route → Prop where
  | relation (kind : RelationKind) (p : DatabasePath) (schemaOid oid : Oid) (db db' : Database)
    (stored : StoredRelation) (description : Option String) (options : StorageOptions)
    (h : c.Holds p schemaOid oid kind db stored) (hb : c.Beyond p c')
    (hd : c'.database p = .ok db')
    (ho : db.OnlyRelation oid
      { stored with relation := { stored.relation with description, options } } db') :
    Rewrites c c' (.relation kind p schemaOid oid)
  | trigger (p : DatabasePath) (schemaOid tableOid oid : Oid) (db db' : Database) (t : Trigger)
    (name : String) (mode : TriggerMode) (description : Option String)
    (h : c.HoldsTrigger p schemaOid tableOid oid db t) (hb : c.Beyond p c')
    (hd : c'.database p = .ok db')
    (ho : db.OnlyTrigger oid { t with name, mode, description } db') :
    Rewrites c c' (.trigger p schemaOid tableOid oid)

theorem Route.Rewrites.finds {c c' : Catalog} {route : Route} (h : route.Rewrites c c') :
    route.Finds c := by
  cases h with
  | relation _ _ _ _ _ _ _ _ _ h => exact .relation _ _ _ _ _ _ h
  | trigger _ _ _ _ _ _ _ _ _ _ h => exact .trigger _ _ _ _ _ _ h

def Route.IsObject : Route → Prop
  | .relation .. | .trigger .. => True
  | _ => False

end Http

namespace Console

open Http

variable {c : Console} {route : Route}

/-- The console on which a trigger can be looked up after it was changed. -/
def unhindered (c : Console) : Console :=
  { c with faults := { c.faults with triggerAgain := .none } }

/-- What comes of a request for an object: a refusal, a look at it, an update of it, or an update of
a trigger that is answered with a fault, because the trigger was not found after it. -/
inductive ObjectResult (c : Console) (route : Route) (body : String) :
    Bool → Response × Console → Prop where
  | refused (update : Bool) (response : Response) (hs : response.status ≠ 200) :
    ObjectResult c route body update (response, c)
  | viewed (response : Response) (hs : response.status = 200) (hf : route.Finds c.catalog) :
    ObjectResult c route body false (response, c)
  | updated (response : Response) (catalog : Catalog) (hs : response.status = 200)
    (hr : route.Rewrites c.catalog catalog) :
    ObjectResult c route body true (response, { c with catalog })
  | unanswered (fault : CatalogError) (catalog : Catalog) (p : DatabasePath)
    (schemaOid tableOid oid : Oid) (hroute : route = .trigger p schemaOid tableOid oid)
    (hf : c.faults.triggerAgain = some fault) (hr : route.Rewrites c.catalog catalog)
    (hs : (c.unhindered.respondRoute true body route).1.status = 200)
    (hc : (c.unhindered.respondRoute true body route).2.catalog = catalog) :
    ObjectResult c route body true (.failure (.catalog fault), { c with catalog })

theorem Performs.unhindered {db db' : Database} {statements : List Statement}
    (h : c.Performs db statements db') : c.unhindered.Performs db statements db' :=
  ⟨h.connect, h.relation, h.execute, h.applied⟩

theorem rewrites_putTrigger {p : DatabasePath} {schemaOid tableOid oid : Oid} {db : Database}
    {t : Trigger} (h : c.catalog.HoldsTrigger p schemaOid tableOid oid db t) (v : TriggerUpdate) :
    (Route.trigger p schemaOid tableOid oid).Rewrites c.catalog
      (c.putDatabase p (db.putTrigger oid (v.rewritten t))).catalog :=
  .trigger p schemaOid tableOid oid db _ t (v.finalName t) (v.mode.getD t.mode)
    (v.rewritten t).description h (Catalog.beyond_putDatabase _ _ _)
    (Catalog.database_putDatabase_self h.serves.database _) (db.onlyTrigger_putTrigger oid _)

theorem respondTriggerUpdate_performs {p : DatabasePath} {schemaOid tableOid oid : Oid}
    {db : Database} {t : Trigger} {v : TriggerUpdate} {statements : List Statement} {body : String}
    (hb : readBody TriggerUpdate.read? body = .ok v)
    (ht : c.catalog.HoldsTrigger p schemaOid tableOid oid db t) (hft : c.faults.trigger = .none)
    (hv : v.statements t = .ok statements)
    (h : c.Performs db statements (db.putTrigger oid (v.rewritten t))) :
    c.respondTriggerUpdate p schemaOid tableOid oid body =
      (match c.faults.triggerAgain with
        | .none => .node t.oid "trigger" (v.rewritten t).name
        | some fault => .failure (.catalog fault),
      c.putDatabase p (db.putTrigger oid (v.rewritten t))) := by
  unfold respondTriggerUpdate
  simp only [hb, changeTrigger_performs ht hft hv h]
  cases c.faults.triggerAgain <;> rfl

theorem status_ne_ok (e : ConsoleError) : e.status ≠ 200 := by
  rcases e with e | e | e
  · cases e <;> simp [ConsoleError.status]
  · simp [ConsoleError.status]
  · unfold ConsoleError.status
    split <;> try simp
    split <;> simp

theorem objectResult_error (body : String) (update : Bool) (e : ConsoleError) :
    ObjectResult c route body update (.failure e, c) := .refused update _ (status_ne_ok e)

theorem objectResult_relation (ht : c.catalog.Tidy) (update : Bool) (body : String)
    (kind : RelationKind) (p : DatabasePath) (schemaOid oid : Oid) :
    ObjectResult c (.relation kind p schemaOid oid) body update
      (c.respondRoute update body (.relation kind p schemaOid oid)) := by
  cases update with
  | false =>
    simp only [respondRoute]
    rcases viewRelation_cases c p schemaOid oid kind with ⟨e, he⟩ | ⟨db, stored, hstored, he⟩
    · simp only [he]
      exact objectResult_error _ _ e
    · simp only [he]
      exact .viewed _ rfl (.relation kind p schemaOid oid db stored hstored)
  | true =>
    change ObjectResult c _ body true (c.respondRelationUpdate kind p schemaOid oid body)
    unfold respondRelationUpdate
    cases readBody RelationUpdate.read? body with
    | error e => exact objectResult_error _ _ e
    | ok u =>
      obtain ⟨e, he⟩ | ⟨db, stored, statements, db', hstored, hu, hperforms⟩ :=
        changeRelation_cases c p schemaOid oid kind u
      · simp only [he]
        exact objectResult_error _ _ e
      · simp only [changeRelation_performs hstored hu hperforms]
        have hd := hstored.serves.database
        have ho := (ht p db (Catalog.database_eq_ok.mp hd)).relationOid hstored.found
        obtain ⟨description, options, rfl⟩ :=
          ((db.applies_applyAll statements).frame hperforms.applied).putRelation
            (fun s hm => ho ▸ RelationUpdate.about_of_mem hu hm) hstored.found
        exact .updated _ _ rfl (.relation kind p schemaOid oid db _ stored description options
          hstored (Catalog.beyond_putDatabase _ _ _) (Catalog.database_putDatabase_self hd _)
          (db.onlyRelation_putStored oid _))

theorem objectResult_trigger (ht : c.catalog.Tidy) (update : Bool) (body : String)
    (p : DatabasePath) (schemaOid tableOid oid : Oid) :
    ObjectResult c (.trigger p schemaOid tableOid oid) body update
      (c.respondRoute update body (.trigger p schemaOid tableOid oid)) := by
  cases update with
  | false =>
    simp only [respondRoute]
    rcases viewTrigger_cases c p schemaOid tableOid oid with ⟨e, he⟩ | ⟨db, t, htrigger, he⟩
    · simp only [he]
      exact objectResult_error _ _ e
    · simp only [he]
      exact .viewed _ rfl (.trigger p schemaOid tableOid oid db t htrigger)
  | true =>
    change ObjectResult c _ body true (c.respondTriggerUpdate p schemaOid tableOid oid body)
    cases hb : readBody TriggerUpdate.read? body with
    | error e =>
      unfold respondTriggerUpdate
      rw [hb]
      exact objectResult_error _ _ e
    | ok u =>
      obtain ⟨e, he⟩ | ⟨db, t, statements, htrigger, hft, hu, hperforms⟩ :=
        changeTrigger_cases ht p schemaOid tableOid oid u
      · unfold respondTriggerUpdate
        simp only [hb, he]
        exact objectResult_error _ _ e
      have hrewrites := rewrites_putTrigger htrigger u
      -- The update is done by now; the second look-up decides on nothing but the answer.
      rw [respondTriggerUpdate_performs hb htrigger hft hu hperforms]
      cases hf : c.faults.triggerAgain with
      | none => exact .updated _ _ rfl hrewrites
      | some fault =>
        have hunhindered : c.unhindered.respondRoute true body
            (.trigger p schemaOid tableOid oid) =
              (.node t.oid "trigger" (u.rewritten t).name,
                c.unhindered.putDatabase p (db.putTrigger oid (u.rewritten t))) :=
          respondTriggerUpdate_performs (c := c.unhindered) hb htrigger hft hu hperforms.unhindered
        refine .unanswered fault _ p schemaOid tableOid oid rfl hf hrewrites ?_ ?_
        · rw [hunhindered]
          rfl
        · rw [hunhindered]
          rfl

theorem objectResult_route (ht : c.catalog.Tidy) (ho : route.IsObject) (update : Bool)
    (body : String) : ObjectResult c route body update (c.respondRoute update body route) := by
  cases route with
  | relation kind p schemaOid oid => exact objectResult_relation ht update body kind p schemaOid oid
  | trigger p schemaOid tableOid oid =>
    exact objectResult_trigger ht update body p schemaOid tableOid oid
  | openView | start | poll | fetch | close | health => exact ho.elim

/-- A console to which anything has happened since it began with an empty or the standard
catalog. -/
def Evolved (c : Console) : Prop :=
  ∃ start pageSize steps, (start = .empty ∨ start = .standard) ∧
    c = (Console.new start pageSize).run steps

theorem Evolved.tidy (h : c.Evolved) : c.catalog.Tidy := by
  obtain ⟨start, pageSize, steps, hs, rfl⟩ := h
  refine catalog_preserves Catalog.tidy_change steps ?_
  rcases hs with rfl | rfl
  · exact Catalog.tidy_empty
  · exact Catalog.tidy_standard

theorem isObject_of_route {e : Endpoint} (he : e ∈ [.trigger, .table, .materializedView])
    {parameters : List Parameter} (h : e.route parameters = .ok route) : route.IsObject := by
  obtain ⟨texts, _, h⟩ := bind_eq_ok.mp h
  simp only [List.mem_cons, List.not_mem_nil, or_false] at he
  rcases he with rfl | rfl | rfl
  · obtain ⟨p, _, h⟩ := bind_eq_ok.mp h
    obtain ⟨schemaOid, _, h⟩ := bind_eq_ok.mp h
    obtain ⟨tableOid, _, h⟩ := bind_eq_ok.mp h
    obtain ⟨oid, _, h⟩ := bind_eq_ok.mp h
    cases h
    trivial
  all_goals
    obtain ⟨p, _, h⟩ := bind_eq_ok.mp h
    obtain ⟨schemaOid, _, h⟩ := bind_eq_ok.mp h
    obtain ⟨oid, _, h⟩ := bind_eq_ok.mp h
    cases h
    trivial

theorem route?_eq_some {r : Request} : r.route? = some route ↔ ∃ e parameters,
    (segments? r.uri).bind Endpoint.ofSegments? = some (e, parameters) ∧ r.method ∈ e.methods ∧
      e.route parameters = .ok route := by
  unfold Request.route?
  split
  · next e parameters hpath =>
    rw [hpath]
    split
    · next hm =>
      cases hr : e.route parameters <;> simp [hr, hm, Except.toOption]
    · next hm =>
      simp only [reduceCtorEq, Option.some.injEq, Prod.mk.injEq, false_iff]
      rintro ⟨_, _, ⟨rfl, rfl⟩, hm', _⟩
      exact hm hm'
  · next hpath => simp [hpath]

theorem serve_put {r : Request} (hm : r.method = "PUT") (hr : r.route? = some route)
    (c : Console) : c.serve r = c.respondRoute true r.body route := by
  rw [serve_of_route hr, hm, if_neg (by decide), decide_eq_true rfl]

/-- A request for a trigger, a table or a materialized view that is not answered with 200 changes
nothing, or it has changed a trigger which then could not be looked up: the answer is that fault,
and the change is the one that is answered with 200 without it. Where the answer is 200, the object
is there that the path names, and an update changes what can be changed of this object, and nothing
else. No connection stays open. -/
theorem object_requests (c : Console) (hc : c.Evolved) (r : Request) (e : Endpoint)
    (parameters : List Parameter)
    (hp : (segments? r.uri).bind Endpoint.ofSegments? = some (e, parameters))
    (he : e ∈ [.trigger, .table, .materializedView]) :
    ((c.serve r).1.status ≠ 200 → (c.serve r).2 = c ∨
      ∃ (fault : CatalogError) (p : DatabasePath) (schemaOid tableOid oid : Oid)
        (catalog : Catalog), c.faults.triggerAgain = some fault ∧ r.method = "PUT" ∧
        e.route parameters = .ok (.trigger p schemaOid tableOid oid) ∧
        (c.serve r).1 = .failure (.catalog fault) ∧ (c.serve r).2 = { c with catalog } ∧
        (Route.trigger p schemaOid tableOid oid).Rewrites c.catalog catalog ∧
        (c.unhindered.serve r).1.status = 200 ∧ (c.unhindered.serve r).2.catalog = catalog) ∧
    ((c.serve r).1.status = 200 → ∃ route, e.route parameters = .ok route ∧
      route.Finds c.catalog ∧ (r.method ≠ "PUT" → (c.serve r).2 = c) ∧
      (r.method = "PUT" → ∃ catalog, route.Rewrites c.catalog catalog ∧
        (c.serve r).2 = { c with catalog })) ∧
    (c.serve r).2.connections = c.connections := by
  cases hr : r.route? with
  | none =>
    obtain ⟨response, hs, hserve⟩ := serve_of_no_route hr
    rw [hserve]
    exact ⟨fun _ => .inl rfl, fun h => absurd h hs, rfl⟩
  | some route =>
    obtain ⟨e', parameters', hp', _, hroute⟩ := route?_eq_some.mp hr
    cases hp'.symm.trans hp
    have hobject := isObject_of_route he hroute
    by_cases hm : r.method = "PUT"
    · have hresult := objectResult_route hc.tidy hobject true r.body
      rw [serve_put hm hr c, serve_put hm hr c.unhindered]
      generalize c.respondRoute true r.body route = result at hresult
      cases hresult with
      | refused _ response hs => exact ⟨fun _ => .inl rfl, fun h => absurd h hs, rfl⟩
      | updated response catalog hs hw =>
        exact ⟨fun h => absurd hs h, fun _ => ⟨route, hroute, hw.finds, fun h => absurd hm h,
          fun _ => ⟨catalog, hw, rfl⟩⟩, rfl⟩
      | unanswered fault catalog p schemaOid tableOid oid hobject hf hw hs hcatalog =>
        subst hobject
        exact ⟨fun _ => .inr ⟨fault, p, schemaOid, tableOid, oid, catalog, hf, hm, hroute, rfl, rfl,
          hw, hs, hcatalog⟩, fun h => absurd h (status_ne_ok _), rfl⟩
    · have hresult := objectResult_route hc.tidy hobject false r.body
      have hserve : (c.serve r).2 = (c.respondRoute false r.body route).2 := by
        rw [serve_of_route hr, decide_eq_false hm]
      rw [status_of_route hr, hserve, decide_eq_false hm]
      generalize c.respondRoute false r.body route = result at hresult
      cases hresult with
      | refused _ response hs => exact ⟨fun _ => .inl rfl, fun h => absurd h hs, rfl⟩
      | viewed response hs hf =>
        exact ⟨fun _ => .inl rfl,
          fun _ => ⟨route, hroute, hf, fun _ => rfl, fun h => absurd h hm⟩, rfl⟩

def switching : Request where
  method := "PUT"
  uri := "/browser/trigger/obj/1/1/16384/16385/16386/16387"
  body := "\x7b\"name\":\"c\",\"is_enable_trigger\":\"D\"\x7d"

theorem switching_path : ∃ parameters,
    (segments? switching.uri).bind Endpoint.ofSegments? = some (.trigger, parameters) ∧
    Endpoint.trigger.route parameters = .ok (.trigger ⟨1, 1, 16384⟩ 16385 16386 16387) := by
  have hpath : ((segments? switching.uri).bind Endpoint.ofSegments?).any (fun x =>
      decide (x.1 = .trigger ∧ (x.1.route x.2).toOption =
        some (.trigger ⟨1, 1, 16384⟩ 16385 16386 16387))) = true := by
    decide +kernel
  obtain ⟨⟨e, parameters⟩, hp, he⟩ := (Option.any_eq_true _ _).mp hpath
  obtain ⟨rfl, hroute⟩ := of_decide_eq_true he
  exact ⟨parameters, hp, toOption_eq_some.mp hroute⟩

def losingSteps : List Step :=
  triggerSteps ++
    [.setFaults { Faults.none with triggerAgain := some (.connectionFailed (.reported "lost")) }]

theorem losing_changes :
    (((Console.new .standard 1).run losingSteps).serve switching).1.status = 503 ∧
    (((Console.new .standard 1).run losingSteps).serve switching).2.catalog ≠
      ((Console.new .standard 1).run losingSteps).catalog := by
  have hnames : ((((Console.new .standard 1).run losingSteps).serve switching).2.catalog.trigger
      ⟨1, 1, 16384⟩ 16386 16387).toOption.map (·.name) ≠
      (((Console.new .standard 1).run losingSteps).catalog.trigger ⟨1, 1, 16384⟩ 16386
        16387).toOption.map (·.name) := by
    decide +kernel
  exact ⟨by decide +kernel, fun he => hnames (by rw [he])⟩

/-- The update is answered with 200, and with 503 where the connection is lost; it is done both
times. -/
theorem object_requests_switching : ∃ (c c' : Console) (catalog catalog' : Catalog),
    (c.serve switching).1.status = 200 ∧ (c.serve switching).2 = { c with catalog } ∧
    (Route.trigger ⟨1, 1, 16384⟩ 16385 16386 16387).Rewrites c.catalog catalog ∧
    (catalog.trigger ⟨1, 1, 16384⟩ 16386 16387).toOption.map (fun t => (t.name, t.mode)) =
      some ("c", .disabled) ∧
    (c'.serve switching).1.status = 503 ∧ (c'.serve switching).2 = { c' with catalog := catalog' } ∧
    (Route.trigger ⟨1, 1, 16384⟩ 16385 16386 16387).Rewrites c'.catalog catalog' := by
  obtain ⟨parameters, hp, hroute⟩ := switching_path
  have hstatus : (((Console.new .standard 1).run triggerSteps).serve switching).1.status = 200 := by
    decide +kernel
  have hnew : ((((Console.new .standard 1).run triggerSteps).serve switching).2.catalog.trigger
      ⟨1, 1, 16384⟩ 16386 16387).toOption.map (fun t => (t.name, t.mode)) =
        some ("c", .disabled) := by
    decide +kernel
  obtain ⟨hlost, hchanged⟩ := losing_changes
  have hc : ((Console.new .standard 1).run triggerSteps).Evolved :=
    ⟨.standard, 1, triggerSteps, .inr rfl, rfl⟩
  have hc' : ((Console.new .standard 1).run losingSteps).Evolved :=
    ⟨.standard, 1, losingSteps, .inr rfl, rfl⟩
  generalize (Console.new .standard 1).run triggerSteps = c at *
  generalize (Console.new .standard 1).run losingSteps = c' at *
  obtain ⟨_, hok, _⟩ := object_requests c hc switching .trigger parameters hp (by decide)
  obtain ⟨hnot, _, _⟩ := object_requests c' hc' switching .trigger parameters hp (by decide)
  obtain ⟨route, hr, _, _, hput⟩ := hok hstatus
  obtain ⟨catalog, hw, he⟩ := hput rfl
  cases hr.symm.trans hroute
  rw [he] at hnew
  obtain hsame | ⟨_, p, schemaOid, tableOid, oid, catalog', _, _, hr', _, he', hw', _⟩ :=
    hnot (by simp [hlost])
  · exact absurd (congrArg Console.catalog hsame) hchanged
  · cases hr'.symm.trans hroute
    exact ⟨c, c', catalog, catalog', hstatus, he, hw, hnew, hlost, he', hw'⟩

/-- A request that is not answered with 200 may have changed a trigger all the same. -/
theorem trigger_changed_unanswered : ¬∀ c : Console, c.Evolved → ∀ (r : Request) (e : Endpoint)
    (parameters : List Parameter),
    (segments? r.uri).bind Endpoint.ofSegments? = some (e, parameters) →
    e ∈ [.trigger, .table, .materializedView] → r.method = "PUT" →
    (c.serve r).1.status ≠ 200 → (c.serve r).2.catalog = c.catalog := by
  intro hunchanged
  obtain ⟨parameters, hp, _⟩ := switching_path
  obtain ⟨hlost, hchanged⟩ := losing_changes
  exact hchanged (hunchanged _ ⟨.standard, 1, losingSteps, .inr rfl, rfl⟩ switching .trigger
    parameters hp (by decide) rfl (by simp [hlost]))

end Console

end DbConsole
