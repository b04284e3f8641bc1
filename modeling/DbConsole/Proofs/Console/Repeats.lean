import DbConsole.Proofs.Console.Effects

namespace DbConsole

theorem OptionChanges.apply_apply (c : OptionChanges) (options : StorageOptions) :
    c.apply (c.apply options) = c.apply options := by
  apply SortedMap.ext_find?
  intro name
  by_cases hr : name ∈ c.reset
  · simp only [find?_apply, if_pos hr]
  · simp only [find?_apply, if_neg hr, ← Option.or_assoc, Option.or_self]

namespace RelationUpdate

variable (u : RelationUpdate) (r : Relation)

theorem rewritten_rewritten : u.rewritten (u.rewritten r) = u.rewritten r := by
  cases hd : u.description <;> simp [rewritten, OptionChanges.apply_apply, hd]

theorem statements_rewritten : u.statements (u.rewritten r) = u.statements r := rfl

end RelationUpdate

namespace Catalog

variable {c : Catalog} {p : DatabasePath} {db db' : Database} {schemaOid tableOid oid : Oid}
  {kind : RelationKind} {stored : StoredRelation} {t t' : Trigger}

theorem Serves.putDatabase (h : c.Serves p db) (db' : Database) :
    (c.putDatabase p db').Serves p db' := by
  obtain ⟨server, hs, ha, _⟩ := h
  refine ⟨{ server with databases := server.databases.insert p.database db' }, ?_, ha, ?_⟩
  · rw [Catalog.putDatabase, server?_modifyServer, if_pos ⟨rfl, rfl⟩, hs]
    rfl
  · simp only [SortedMap.find?_insert, if_true]

theorem Holds.putRelation (h : c.Holds p schemaOid oid kind db stored) {r : Relation}
    (hr : r.core = stored.relation.core) :
    (c.putDatabase p (db.putRelation oid stored r)).Holds p schemaOid oid kind
      (db.putRelation oid stored r) { stored with relation := r } := by
  obtain ⟨_, hs, _, hk, _, _⟩ := Relation.core_eq_iff.mp hr
  exact ⟨h.serves.putDatabase _, (db.onlyRelation_putStored oid _).relation, hs.trans h.schema,
    hk.trans h.kind⟩

theorem HoldsTrigger.putTrigger (h : c.HoldsTrigger p schemaOid tableOid oid db t) (t' : Trigger)
    (ho : t'.tableOid = t.tableOid) : (c.putDatabase p (db.putTrigger oid t')).HoldsTrigger p
      schemaOid tableOid oid (db.putTrigger oid t') t' := by
  obtain ⟨stored, hstored⟩ := h.table
  exact ⟨⟨stored, h.serves.putDatabase _, hstored.found, hstored.schema, hstored.kind⟩,
    db.find?_putTrigger oid t', ho.trans h.owner⟩

end Catalog

namespace Console

open Http

variable {c c' : Console} {p : DatabasePath} {schemaOid tableOid oid : Oid} {kind : RelationKind}
  {u : RelationUpdate} {v : TriggerUpdate} {r r' : Relation} {t t' : Trigger}

theorem changeRelation_again (ht : c.catalog.Tidy) (hk : kind.hasParameters = true)
    (h : c.changeRelation p schemaOid oid kind u = (.ok r, c')) :
    c'.changeRelation p schemaOid oid kind u = (.ok (u.rewritten r), c') := by
  obtain ⟨e, he⟩ | ⟨db, stored, statements, db', hstored, hu, hperforms⟩ :=
    changeRelation_cases c p schemaOid oid kind u
  · rw [he] at h
    cases h
  obtain ⟨haccepted, rfl⟩ := hperforms.rewrites ht hstored hk hu
  rw [changeRelation_performs hstored hu hperforms] at h
  cases h
  have hd := hstored.serves.database
  have ho := (ht p db (Catalog.database_eq_ok.mp hd)).relationOid hstored.found
  have hagain := hstored.putRelation (r := u.rewritten stored.relation) rfl
  have hself : (db.putRelation oid stored (u.rewritten stored.relation)).applyAll statements =
      .ok (db.putRelation oid stored (u.rewritten stored.relation)) := by
    obtain ⟨statements', hs, ha⟩ :=
      Database.applyAll_statements hagain.found ho (hagain.kind ▸ hk) haccepted
    rw [RelationUpdate.statements_rewritten] at hs
    cases hu.symm.trans hs
    rw [ha, RelationUpdate.rewritten_rewritten, Database.putRelation_self hagain.found]
  rw [changeRelation_performs (c := c.putDatabase p _) hagain hu
    ⟨hperforms.connect, hperforms.relation, hperforms.execute, hself⟩,
    putDatabase_self (Catalog.database_putDatabase_self hd _)]

theorem changeTrigger_again (ht : c.catalog.Tidy)
    (h : c.changeTrigger p schemaOid tableOid oid v = (.ok t, c')) :
    c'.changeTrigger p schemaOid tableOid oid v = (.ok t, c') := by
  obtain ⟨e, he⟩ | ⟨db, t, statements, htrigger, hft, hv, hperforms⟩ :=
    changeTrigger_cases ht p schemaOid tableOid oid v
  · rw [he] at h
    cases h
  rw [changeTrigger_performs htrigger hft hv hperforms, Prod.mk.injEq, mapError_eq_ok,
    Faults.strike_eq_ok] at h
  obtain ⟨⟨hfa, he⟩, rfl⟩ := h
  cases he
  have hd := htrigger.serves.database
  have ho := (ht p db (Catalog.database_eq_ok.mp hd)).triggerOid htrigger.found
  subst ho
  have hagain := htrigger.putTrigger (v.rewritten t) rfl
  obtain ⟨hstatements, hnone⟩ := TriggerUpdate.statements_rewritten hv
  have hself : (db.putTrigger t.oid (v.rewritten t)).applyAll
      (v.commentStatements (v.rewritten t)) = .ok (db.putTrigger t.oid (v.rewritten t)) := by
    obtain ⟨_, he⟩ := TriggerUpdate.statements_eq_ok.mp hstatements
    rw [he]
    refine (TriggerUpdate.applyAll_eq_ok hagain.found).mpr ⟨.inl (v.finalName_rewritten t), ?_⟩
    rw [TriggerUpdate.rewritten_rewritten]
    exact (Database.putTrigger_putTrigger db t.oid _ _).symm
  have hperformed : (c.putDatabase p (db.putTrigger t.oid (v.rewritten t))).Performs
      (db.putTrigger t.oid (v.rewritten t)) (v.commentStatements (v.rewritten t))
      ((db.putTrigger t.oid (v.rewritten t)).putTrigger t.oid (v.rewritten (v.rewritten t))) := by
    rw [TriggerUpdate.rewritten_rewritten, Database.putTrigger_putTrigger]
    exact ⟨hperforms.connect, hperforms.relation, hperforms.execute.imp_left hnone, hself⟩
  have hfound : (c.putDatabase p (db.putTrigger t.oid (v.rewritten t))).faults.triggerAgain =
      .none := hfa
  rw [changeTrigger_performs (c := c.putDatabase p _) hagain hft hstatements hperformed, hfound,
    TriggerUpdate.rewritten_rewritten, Database.putTrigger_putTrigger,
    putDatabase_self (Catalog.database_putDatabase_self hd _)]
  rfl

theorem respondRelationUpdate_again (ht : c.catalog.Tidy) (hk : kind.hasParameters = true)
    {body : String} (h : (c.respondRelationUpdate kind p schemaOid oid body).1.status = 200) :
    (c.respondRelationUpdate kind p schemaOid oid body).2.respondRelationUpdate kind p schemaOid oid
      body = c.respondRelationUpdate kind p schemaOid oid body := by
  simp only [respondRelationUpdate] at h ⊢
  cases hb : readBody RelationUpdate.read? body with
  | error e => rfl
  | ok u =>
    rw [hb] at h
    cases hx : c.changeRelation p schemaOid oid kind u with
    | mk answer c' =>
      simp only [hx] at h ⊢
      cases answer with
      | error e => exact absurd h (status_ne_ok e)
      | ok r =>
        simp only [changeRelation_again ht hk hx]
        rfl

theorem respondTriggerUpdate_again (ht : c.catalog.Tidy) {body : String}
    (h : (c.respondTriggerUpdate p schemaOid tableOid oid body).1.status = 200) :
    (c.respondTriggerUpdate p schemaOid tableOid oid body).2.respondTriggerUpdate p schemaOid
      tableOid oid body = c.respondTriggerUpdate p schemaOid tableOid oid body := by
  simp only [respondTriggerUpdate] at h ⊢
  cases hb : readBody TriggerUpdate.read? body with
  | error e => rfl
  | ok v =>
    rw [hb] at h
    cases hx : c.changeTrigger p schemaOid tableOid oid v with
    | mk answer c' =>
      simp only [hx] at h ⊢
      cases answer with
      | error e => exact absurd h (status_ne_ok e)
      | ok t => simp only [changeTrigger_again ht hx]

theorem isObject_of_put {route : Route} {r : Request} (hm : r.method = "PUT")
    (hr : r.route? = some route) : route.IsObject := by
  obtain ⟨e, parameters, _, hmethod, hroute⟩ := route?_eq_some.mp hr
  have he : "PUT" ∈ e.methods → e ∈ [.trigger, .table, .materializedView] := by
    cases e <;> decide
  rw [hm] at hmethod
  exact isObject_of_route (he hmethod) hroute

/-- A request for an update that is answered with 200, sent again while the same faults are in
force, is answered as it was, body and all, and leaves the console as it was. -/
theorem update_repeats (c : Console) (hc : c.Evolved) (r : Request) (hm : r.method = "PUT")
    (hs : (c.serve r).1.status = 200) : (c.serve r).2.serve r = c.serve r := by
  cases hr : r.route? with
  | none =>
    obtain ⟨response, hne, he⟩ := serve_of_no_route hr
    rw [he c] at hs
    exact absurd hs hne
  | some route =>
    rw [serve_put hm hr c] at hs
    rw [serve_put hm hr, serve_put hm hr]
    cases route with
    | relation kind p schemaOid oid =>
      exact respondRelationUpdate_again hc.tidy (hasParameters_of_route hr) hs
    | trigger p schemaOid tableOid oid => exact respondTriggerUpdate_again hc.tidy hs
    | openView | start | poll | fetch | close | health => exact (isObject_of_put hm hr).elim

def resetting : Request where
  method := "PUT"
  uri := "/browser/table/obj/1/1/16384/16385/16386"
  body := "\x7b\"vacuum_table\":\x7b\"changed\":[\x7b\"name\":\"autovacuum_freeze_max_age\"\x7d,\x7b\"name\":\"autovacuum_freeze_max_age\",\"value\":7\x7d]\x7d\x7d"

theorem update_repeats_resetting : ∃ c : Console,
    [c, (c.serve resetting).2].map (fun c => (c.catalog.relation ⟨1, 1, 16384⟩ 16386).toOption.map
      (·.options.entries)) =
      [some [("autovacuum_freeze_max_age", "50"), ("fillfactor", "70"),
        ("toast.autovacuum_freeze_max_age", "100")],
      some [("fillfactor", "70"), ("toast.autovacuum_freeze_max_age", "100")]] ∧
    (c.serve resetting).1.status = 200 ∧ (c.serve resetting).2.serve resetting = c.serve resetting
    := by
  have hs : (((Console.new .standard 1).run vacuumedSteps).serve resetting).1.status = 200 := by
    decide +kernel
  have hc : ((Console.new .standard 1).run vacuumedSteps).Evolved :=
    ⟨.standard, 1, vacuumedSteps, .inr rfl, rfl⟩
  exact ⟨_, by decide +kernel, hs, update_repeats _ hc resetting rfl hs⟩

end Console

end DbConsole
