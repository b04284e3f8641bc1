import DbConsole.Proofs.Console.Endings
import DbConsole.Proofs.Console.Objects
import DbConsole.Proofs.Update.Relation

namespace DbConsole.Console

open Http

variable {c : Console} {p : DatabasePath} {schemaOid oid : Oid} {kind : RelationKind}
  {kind' : RelationKind} {db : Database} {stored : StoredRelation} {u : RelationUpdate}
  {r : Request}

theorem relationIn_held (hh : c.faults.Harmless)
    (h : c.catalog.Holds p schemaOid oid kind db stored) :
    (c.lend 1).relationIn ⟨p⟩ schemaOid oid kind = .ok stored.relation :=
  (relationIn_eq_ok (c := c.lend 1) h.serves).mpr ⟨hh.relation, stored, h, rfl⟩

theorem viewRelation_held (hh : c.faults.Harmless)
    (h : c.catalog.Holds p schemaOid oid kind db stored) :
    c.viewRelation p schemaOid oid kind = (.ok stored.relation, c) :=
  withConnection_eq h.serves hh.connect (by rw [relationIn_held hh h]; rfl)

theorem changeRelation_unmade (hh : c.faults.Harmless)
    (h : c.catalog.Holds p schemaOid oid kind db stored) {e : BadRequest}
    (hu : u.statements stored.relation = .error e) :
    c.changeRelation p schemaOid oid kind u = (.error (.badRequest e), c) := by
  refine withConnection_eq h.serves hh.connect ?_
  simp only [relationIn_held hh h, hu]
  rfl

theorem changeRelation_refused (hh : c.faults.Harmless)
    (h : c.catalog.Holds p schemaOid oid kind db stored) (hu : ¬u.Accepted) :
    ∃ e, c.changeRelation p schemaOid oid kind u = (.error (.badRequest e), c) := by
  obtain ⟨e, he⟩ := RelationUpdate.statements_refused hu stored.relation
  exact ⟨e, changeRelation_unmade hh h he⟩

theorem changeRelation_accepted (hh : c.faults.Harmless)
    (h : c.catalog.Holds p schemaOid oid kind db stored) (ho : stored.relation.oid = oid)
    (hk : kind.hasParameters = true) (hu : u.Accepted) :
    c.changeRelation p schemaOid oid kind u = (.ok stored.relation,
      c.putDatabase p (db.putRelation oid stored (u.rewritten stored.relation))) := by
  obtain ⟨statements, hs, ha⟩ := Database.applyAll_statements h.found ho (h.kind ▸ hk) hu
  exact changeRelation_performs h hs ⟨hh.connect, hh.relation, .inr hh.execute, ha⟩

theorem kind_of_relation {t : Texts}
    (h : Endpoint.relation kind' t = .ok (.relation kind p schemaOid oid)) : kind = kind' := by
  obtain ⟨_, _, h⟩ := bind_eq_ok.mp h
  obtain ⟨_, _, h⟩ := bind_eq_ok.mp h
  obtain ⟨_, _, h⟩ := bind_eq_ok.mp h
  cases h
  rfl

theorem endpoint_of_relation {e : Endpoint} {parameters : List Parameter}
    (h : e.route parameters = .ok (.relation kind p schemaOid oid)) :
    e = .table ∧ kind = .table ∨ e = .materializedView ∧ kind = .materializedView := by
  obtain ⟨texts, _, hr⟩ := bind_eq_ok.mp h
  cases e with
  | table => exact .inl ⟨rfl, kind_of_relation hr⟩
  | materializedView => exact .inr ⟨rfl, kind_of_relation hr⟩
  | health | start | poll | fetch | close => cases hr
  | openView =>
    obtain ⟨_, _, hr⟩ := bind_eq_ok.mp hr
    obtain ⟨_, _, hr⟩ := bind_eq_ok.mp hr
    obtain ⟨_, _, hr⟩ := bind_eq_ok.mp hr
    cases hr
  | trigger =>
    obtain ⟨_, _, hr⟩ := bind_eq_ok.mp hr
    obtain ⟨_, _, hr⟩ := bind_eq_ok.mp hr
    obtain ⟨_, _, hr⟩ := bind_eq_ok.mp hr
    obtain ⟨_, _, hr⟩ := bind_eq_ok.mp hr
    cases hr

theorem hasParameters_of_route (h : r.route? = some (.relation kind p schemaOid oid)) :
    kind.hasParameters = true := by
  obtain ⟨e, parameters, _, _, hr⟩ := route?_eq_some.mp h
  rcases endpoint_of_relation hr with ⟨_, rfl⟩ | ⟨_, rfl⟩ <;> rfl

theorem route?_put {method uri body : String}
    (h : Request.route? ⟨method, uri, body⟩ = some (.relation kind p schemaOid oid))
    (sent : String) :
    Request.route? ⟨"PUT", uri, sent⟩ = some (.relation kind p schemaOid oid) := by
  obtain ⟨e, parameters, hp, _, hr⟩ := route?_eq_some.mp h
  have hm : "PUT" ∈ e.methods := by
    rcases endpoint_of_relation hr with ⟨rfl, _⟩ | ⟨rfl, _⟩ <;> decide
  exact route?_eq_some.mpr ⟨e, parameters, hp, hm, hr⟩

theorem serve_update (hm : r.method = "PUT")
    (hr : r.route? = some (.relation kind p schemaOid oid)) (c : Console) :
    c.serve r = c.respondRelationUpdate kind p schemaOid oid r.body := serve_put hm hr c

/-- Without faults, an update of a table or a materialized view is refused with 400 and changes
nothing if a part of it that counts has an entry that is not accepted; and otherwise it makes of the
relation what each part of it says, and leaves everything else as it was. -/
theorem relation_update (c : Console) (hc : c.Evolved) (hh : c.faults.Harmless) (r : Request)
    (hm : r.method = "PUT") (kind : RelationKind) (p : DatabasePath) (schemaOid oid : Oid)
    (hr : r.route? = some (.relation kind p schemaOid oid)) (db : Database)
    (stored : StoredRelation) (h : c.catalog.Holds p schemaOid oid kind db stored)
    (u : RelationUpdate) (hb : readBody RelationUpdate.read? r.body = .ok u) :
    (¬u.Accepted → (c.serve r).1.status = 400 ∧ (c.serve r).2 = c) ∧
    (u.Accepted →
      (c.serve r).1 = .node oid (relationType kind) stored.relation.name.name ∧
      ∃ (relation : Relation) (db' : Database) (catalog : Catalog),
        u.Settles stored.relation relation ∧ db.OnlyRelation oid { stored with relation } db' ∧
        catalog.database p = .ok db' ∧ c.catalog.Beyond p catalog ∧
        (c.serve r).2 = { c with catalog }) := by
  have hd := h.serves.database
  rw [serve_update hm hr]
  unfold respondRelationUpdate
  rw [hb]
  refine ⟨fun hu => ?_, fun hu => ?_⟩
  · obtain ⟨e, he⟩ := changeRelation_refused hh h hu
    simp only [he]
    exact ⟨rfl, trivial⟩
  · have ho := (hc.tidy p db (Catalog.database_eq_ok.mp hd)).relationOid h.found
    simp only [changeRelation_accepted hh h ho (hasParameters_of_route hr) hu]
    refine ⟨by rw [ho], u.rewritten stored.relation, _, _,
      RelationUpdate.settles_rewritten hu stored.relation, db.onlyRelation_putStored oid _,
      Catalog.database_putDatabase_self hd _, Catalog.beyond_putDatabase _ _ _, rfl⟩

def vacuumedSteps : List Step :=
  [.createRelation ⟨1, 1, 16384⟩ ⟨"public", "t", .table, [⟨"id", "text", false⟩], ["id"]⟩,
    .connect "k" ⟨1, 1, 16384⟩,
    .execute "k" [.comment (.relation 16386 .table ⟨"public", "t"⟩) (some "x"),
      .setOptions 16386 .table ⟨"public", "t"⟩ [("autovacuum_freeze_max_age", "50"),
        ("fillfactor", "70"), ("toast.autovacuum_freeze_max_age", "100")]]]

def vacuuming : Request where
  method := "PUT"
  uri := "/browser/table/obj/1/1/16384/16385/16386"
  body := "\x7b\"toast_autovacuum\":false,\"vacuum_table\":\x7b\"changed\":[\x7b\"name\":\"autovacuum_freeze_max_age\",\"value\":20\x7d]\x7d\x7d"

theorem relation_update_vacuuming : ∃ (u : RelationUpdate) (old new : Relation),
    readBody RelationUpdate.read? vacuuming.body = .ok u ∧ u.Accepted ∧ u.Settles old new ∧
    old.options.entries = [("autovacuum_freeze_max_age", "50"), ("fillfactor", "70"),
      ("toast.autovacuum_freeze_max_age", "100")] ∧
    new.options.entries = [("autovacuum_freeze_max_age", "20"), ("fillfactor", "70")] ∧
    new.description = some "x" := by
  have hroute : vacuuming.route? = some (.relation .table ⟨1, 1, 16384⟩ 16385 16386) := by
    decide +kernel
  have hreach : ((Console.new .standard 1).run vacuumedSteps).catalog.reach ⟨1, 1, 16384⟩ =
      .ok () := rfl
  have hold : (((Console.new .standard 1).run vacuumedSteps).catalog.relation
      ⟨1, 1, 16384⟩ 16386).toOption.map (fun r => (r.options.entries, r.schemaOid, r.kind)) =
        some ([("autovacuum_freeze_max_age", "50"), ("fillfactor", "70"),
          ("toast.autovacuum_freeze_max_age", "100")], 16385, .table) := by
    decide +kernel
  have hnew : ((((Console.new .standard 1).run vacuumedSteps).serve vacuuming).2.catalog.relation
      ⟨1, 1, 16384⟩ 16386).toOption.map (fun r => (r.options.entries, r.description)) =
        some ([("autovacuum_freeze_max_age", "20"), ("fillfactor", "70")], some "x") := by
    decide +kernel
  have hc : ((Console.new .standard 1).run vacuumedSteps).Evolved :=
    ⟨.standard, 1, vacuumedSteps, .inr rfl, rfl⟩
  have hh : ((Console.new .standard 1).run vacuumedSteps).faults.Harmless :=
    ⟨rfl, rfl, rfl, rfl, rfl, rfl⟩
  generalize (Console.new .standard 1).run vacuumedSteps = c at *
  obtain ⟨old, hold, he⟩ := toOption_map_eq_some.mp hold
  obtain ⟨new, hnew, hn⟩ := toOption_map_eq_some.mp hnew
  simp only [Prod.mk.injEq] at he hn
  obtain ⟨hentries, hschema, hkind⟩ := he
  have hne : (c.serve vacuuming).2 ≠ c := by
    intro hs
    rw [hs, hold] at hnew
    cases hnew
    rw [hn.1] at hentries
    exact absurd hentries (by decide)
  obtain ⟨db, stored, hholds, rfl⟩ := Catalog.exists_holds hreach hold
  rw [hschema, hkind] at hholds
  cases hb : readBody RelationUpdate.read? vacuuming.body with
  | error e =>
    rw [serve_update rfl hroute, respondRelationUpdate, hb] at hne
    exact absurd rfl hne
  | ok u =>
    obtain ⟨hrefused, hdone⟩ := relation_update c hc hh vacuuming rfl .table _ _ _ hroute db stored
      hholds u hb
    have hu : u.Accepted := by
      by_contra hu
      exact hne (hrefused hu).2
    obtain ⟨_, relation, db', catalog, hsettles, honly, hdb, _, hs⟩ := hdone hu
    have hrelation : catalog.relation ⟨1, 1, 16384⟩ 16386 = .ok relation :=
      bind_eq_ok.mpr ⟨db', hdb, bind_eq_ok.mpr ⟨_, Database.relation_eq_ok.mpr honly.relation, rfl⟩⟩
    rw [hs, hrelation] at hnew
    cases hnew
    exact ⟨u, stored.relation, new, rfl, hu, hsettles, hentries, hn.1, hn.2⟩

end DbConsole.Console
