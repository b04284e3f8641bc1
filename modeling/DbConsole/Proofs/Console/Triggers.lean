import DbConsole.Proofs.Console.Updates
import DbConsole.Proofs.Update.Naming

namespace DbConsole.Console

open Http

variable {c : Console} {p : DatabasePath} {schemaOid tableOid oid : Oid} {db : Database}
  {t : Trigger} {u : TriggerUpdate} {r : Request}

theorem carryOut_fails (hx : c.faults.execute = .none) (hd : c.catalog.database p = .ok db)
    {statements : List Statement} (hne : statements ≠ []) {e : CatalogError}
    (ha : db.applyAll statements = .error e) :
    c.carryOut ⟨p⟩ (.ok statements) = .error (.catalog e) := by
  have hany : c.executeAny ⟨p⟩ statements = .error e := by
    rw [executeAny, if_neg hne, execute_eq hx hd, ha]
    rfl
  change (c.executeAny ⟨p⟩ statements).mapError ConsoleError.catalog = _
  rw [hany]
  rfl

theorem changeTrigger_refused (hh : c.faults.Harmless)
    (h : c.catalog.HoldsTrigger p schemaOid tableOid oid db t) {e : ConsoleError}
    (he : (c.lend 1).carryOut ⟨p⟩ (u.statements t) = .error e) :
    c.changeTrigger p schemaOid tableOid oid u = (.error e, c) := by
  have hr := (triggerIn_eq_ok (c := c.lend 1) h.serves).mpr ⟨hh.relation, hh.trigger, h⟩
  exact withConnection_eq h.serves hh.connect (by simp only [hr, he])

theorem changeTrigger_unnamed (hh : c.faults.Harmless)
    (h : c.catalog.HoldsTrigger p schemaOid tableOid oid db t) (hu : u.Unnames) :
    c.changeTrigger p schemaOid tableOid oid u = (.error (.badRequest .emptyTriggerName), c) := by
  refine changeTrigger_refused hh h ?_
  rw [TriggerUpdate.statements_unnamed hu]
  rfl

theorem changeTrigger_collides (hh : c.faults.Harmless)
    (h : c.catalog.HoldsTrigger p schemaOid tableOid oid db t)
    (ho : ∀ {o other}, db.triggers.find? o = some other → other.oid = o) (hu : ¬u.Unnames)
    (hcollides : u.Collides db t) : ∃ duplicate,
      c.changeTrigger p schemaOid tableOid oid u =
        (.error (.catalog (.duplicate duplicate)), c) := by
  obtain ⟨stored, htable⟩ := h.table
  obtain rfl := ho h.found
  obtain ⟨hne, htaken⟩ := (TriggerUpdate.collides_iff ho).mp hcollides
  have happly := TriggerUpdate.applyAll_collides h.found (h.owner ▸ htable.found) hne htaken
  refine ⟨.trigger (u.finalName t) stored.relation.name.name, changeTrigger_refused hh h ?_⟩
  rw [TriggerUpdate.statements_named hu]
  refine carryOut_fails (c := c.lend 1) hh.execute h.serves.database ?_ happly
  simp [TriggerUpdate.renameStatements, hne]

theorem changeTrigger_settles (hh : c.faults.Harmless)
    (h : c.catalog.HoldsTrigger p schemaOid tableOid oid db t)
    (ho : ∀ {o other}, db.triggers.find? o = some other → other.oid = o) (hu : ¬u.Unnames)
    (hfree : ¬u.Collides db t) : c.changeTrigger p schemaOid tableOid oid u =
      (.ok (u.rewritten t), c.putDatabase p (db.putTrigger oid (u.rewritten t))) := by
  obtain rfl := ho h.found
  rw [TriggerUpdate.collides_iff ho, not_and] at hfree
  rw [changeTrigger_performs h hh.trigger (TriggerUpdate.statements_named hu)
    ⟨hh.connect, hh.relation, .inr hh.execute,
      (TriggerUpdate.applyAll_eq_ok h.found).mpr ⟨or_iff_not_imp_left.mpr hfree, rfl⟩⟩,
    hh.triggerAgain]
  rfl

/-- Without faults, an update of a trigger is refused with 400 if it gives a blank name, and with
500 if it gives another trigger's name, and then it changes nothing. Otherwise it makes of the
trigger what each part of it says, and leaves everything else as it was. The statements for it write
the name that the trigger has while they are carried out. -/
theorem trigger_update (c : Console) (hc : c.Evolved) (hh : c.faults.Harmless) (r : Request)
    (hm : r.method = "PUT") (p : DatabasePath) (schemaOid tableOid oid : Oid)
    (hr : r.route? = some (.trigger p schemaOid tableOid oid)) (db : Database) (t : Trigger)
    (h : c.catalog.HoldsTrigger p schemaOid tableOid oid db t) (u : TriggerUpdate)
    (hb : readBody TriggerUpdate.read? r.body = .ok u) :
    ((c.serve r).1.status = 400 ↔ u.Unnames) ∧
    ((c.serve r).1.status = 500 ↔ ¬u.Unnames ∧ u.Collides db t) ∧
    ((c.serve r).1.status = 200 ↔ ¬u.Unnames ∧ ¬u.Collides db t) ∧
    ((c.serve r).1.status ≠ 200 → (c.serve r).2 = c) ∧
    ((c.serve r).1.status = 200 → ∃ (t' : Trigger) (db' : Database) (catalog : Catalog),
      (c.serve r).1 = .node oid "trigger" t'.name ∧ u.Settles t t' ∧ db.OnlyTrigger oid t' db' ∧
      catalog.database p = .ok db' ∧ c.catalog.Beyond p catalog ∧
      (c.serve r).2 = { c with catalog }) ∧
    (¬u.Unnames → ∃ statements, u.statements t = .ok statements ∧
      ∀ before s after, statements = before ++ s :: after →
      ∀ db', db.applyAll before = .ok db' → ∃ t', db'.triggers.find? oid = some t' ∧
        ∀ name, WritesTrigger name s.sql ↔ name = t'.name) := by
  have hd := h.serves.database
  have ho : ∀ {o other}, db.triggers.find? o = some other → other.oid = o :=
    (hc.tidy p db (Catalog.database_eq_ok.mp hd)).triggerOid
  have hnaming : ¬u.Unnames → _ := TriggerUpdate.statements_write (ho h.found ▸ h.found)
  rw [ho h.found] at hnaming
  have hserve : c.serve r = c.respondTriggerUpdate p schemaOid tableOid oid r.body :=
    serve_put hm hr c
  rw [hserve]
  unfold respondTriggerUpdate
  rw [hb]
  by_cases hu : u.Unnames
  · simp only [changeTrigger_unnamed hh h hu]
    have hs : (Response.failure (.badRequest .emptyTriggerName)).status = 400 := rfl
    rw [hs]
    exact ⟨by simp [hu], by simp [hu], by simp [hu], fun _ => trivial, nofun, hnaming⟩
  by_cases hcollides : u.Collides db t
  · obtain ⟨duplicate, hduplicate⟩ := changeTrigger_collides hh h ho hu hcollides
    simp only [hduplicate]
    have hs : (Response.failure (.catalog (.duplicate duplicate))).status = 500 := rfl
    rw [hs]
    exact ⟨by simp [hu], by simp [hu, hcollides], by simp [hcollides], fun _ => trivial, nofun,
      hnaming⟩
  · simp only [changeTrigger_settles hh h ho hu hcollides]
    have hs : (Response.node (u.rewritten t).oid "trigger" (u.rewritten t).name).status = 200 := rfl
    rw [hs]
    refine ⟨by simp [hu], by simp [hcollides], by simp [hu, hcollides], fun hne => absurd rfl hne,
      fun _ => ?_, hnaming⟩
    have hsettles := TriggerUpdate.settles_rewritten u t
    exact ⟨u.rewritten t, _, _, by rw [hsettles.oid, ho h.found], hsettles,
      db.onlyTrigger_putTrigger oid _,
      Catalog.database_putDatabase_self hd _, Catalog.beyond_putDatabase _ _ _, rfl⟩

def colliding : Request where
  method := "PUT"
  uri := switching.uri
  body := "\x7b\"name\":\"b\",\"description\":\"x\"\x7d"

theorem trigger_update_switching : ∃ (c : Console) (db : Database) (t t' : Trigger),
    c.catalog.HoldsTrigger ⟨1, 1, 16384⟩ 16385 16386 16387 db t ∧ t.name = "a" ∧
    (c.serve colliding).1.status = 500 ∧ (c.serve colliding).2 = c ∧
    (⟨some "b", some "x", none⟩ : TriggerUpdate).Collides db t ∧
    (c.serve switching).1 = .node 16387 "trigger" "c" ∧
    (⟨some "c", none, some .disabled⟩ : TriggerUpdate).Settles t t' := by
  have hpath : switching.route? = some (.trigger ⟨1, 1, 16384⟩ 16385 16386 16387) := by
    decide +kernel
  have hpath' : colliding.route? = some (.trigger ⟨1, 1, 16384⟩ 16385 16386 16387) := by
    decide +kernel
  have hreach : ((Console.new .standard 1).run triggerSteps).catalog.reach ⟨1, 1, 16384⟩ =
      .ok () := rfl
  have hlook : (((Console.new .standard 1).run triggerSteps).triggerIn ⟨⟨1, 1, 16384⟩⟩ 16385 16386
      16387).toOption.map (·.name) = some "a" := by
    decide +kernel
  have h200 : (((Console.new .standard 1).run triggerSteps).serve switching).1.status = 200 := by
    decide +kernel
  have h500 : (((Console.new .standard 1).run triggerSteps).serve colliding).1.status = 500 := by
    decide +kernel
  have hc : ((Console.new .standard 1).run triggerSteps).Evolved :=
    ⟨.standard, 1, triggerSteps, .inr rfl, rfl⟩
  have hh : ((Console.new .standard 1).run triggerSteps).faults.Harmless :=
    ⟨rfl, rfl, rfl, rfl, rfl, rfl⟩
  generalize (Console.new .standard 1).run triggerSteps = c at *
  obtain ⟨t, ht, hname⟩ := toOption_map_eq_some.mp hlook
  obtain ⟨db, hserves⟩ := Catalog.serves_of_reach hreach
  obtain ⟨-, -, hholds⟩ := (triggerIn_eq_ok hserves).mp ht
  obtain ⟨-, -, -, -, hdone, -⟩ :=
    trigger_update c hc hh switching rfl _ _ _ _ hpath db t hholds _ rfl
  obtain ⟨-, hrefused, -, hkept, -⟩ :=
    trigger_update c hc hh colliding rfl _ _ _ _ hpath' db t hholds _ rfl
  obtain ⟨t', _, _, hnode, hsettles, -⟩ := hdone h200
  refine ⟨c, db, t, t', hholds, hname, h500, hkept ?_, (hrefused.mp h500).2, ?_, hsettles⟩
  · rw [h500]
    decide
  · rw [hnode, hsettles.name]
    rfl

end DbConsole.Console
