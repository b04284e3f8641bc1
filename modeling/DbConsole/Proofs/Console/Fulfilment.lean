import DbConsole.Proofs.Console.Updates

namespace DbConsole

theorem Database.applyAll_of_statements {db : Database} {oid : Oid} {stored : StoredRelation}
    {u : RelationUpdate} {statements : List Statement} (hf : db.relations.find? oid = some stored)
    (ho : stored.relation.oid = oid) (h : u.statements stored.relation = .ok statements) :
    db.applyAll statements =
      .ok (db.putRelation oid stored (statements.foldl Statement.rewrite stored.relation)) := by
  subst ho
  exact applyAll_addressed hf (RelationUpdate.addresses_of_statements h)

theorem Relation.core_foldl_rewrite (r : Relation) (statements : List Statement) :
    (statements.foldl Statement.rewrite r).core = r.core := by
  induction statements generalizing r with
  | nil => rfl
  | cons s rest ih =>
    have hs : (s.rewrite r).core = r.core := by
      cases s <;> rfl
    exact (ih (s.rewrite r)).trans hs

namespace Console

open Http

variable {c : Console} {p : DatabasePath} {schemaOid oid : Oid} {kind : RelationKind}
  {u : RelationUpdate} {r : Request}

theorem relationIn_missing (hh : c.faults.Harmless) {db : Database} (hs : c.catalog.Serves p db)
    (hn : ∀ stored, ¬c.catalog.Holds p schemaOid oid kind db stored) :
    c.relationIn ⟨p⟩ schemaOid oid kind = .error (.objectNotFound oid) := by
  have hr : c.relation ⟨p⟩ oid = (db.relation oid).map (·.relation) := by
    unfold Console.relation
    rw [hh.relation]
    exact hs.relation oid
  unfold relationIn
  rw [hr]
  cases hf : db.relations.find? oid with
  | none =>
    unfold Database.relation
    rw [hf]
    rfl
  | some stored =>
    have hother : ¬(stored.relation.schemaOid = schemaOid ∧ stored.relation.kind = kind) :=
      fun h => hn stored ⟨hs, hf, h.1, h.2⟩
    rw [Database.relation_eq_ok.mpr hf]
    exact if_neg hother

theorem changeRelation_unreached (hh : c.faults.Harmless) {e : CatalogError}
    (hr : c.catalog.reach p = .error e) :
    c.changeRelation p schemaOid oid kind u = (.error (.catalog e), c) := by
  have hk : c.connect p = .error e := by
    unfold Console.connect
    rw [hh.connect, hr]
    rfl
  exact withConnection_error hk

theorem changeRelation_missing (hh : c.faults.Harmless) {db : Database}
    (hs : c.catalog.Serves p db)
    (hn : ∀ stored, ¬c.catalog.Holds p schemaOid oid kind db stored) :
    c.changeRelation p schemaOid oid kind u = (.error (.catalog (.objectNotFound oid)), c) := by
  have hmissing : (c.lend 1).relationIn ⟨p⟩ schemaOid oid kind = .error (.objectNotFound oid) :=
    relationIn_missing (c := c.lend 1) hh hs hn
  exact withConnection_eq hs hh.connect (by simp only [hmissing])

theorem changeRelation_made (hh : c.faults.Harmless) {db : Database} {stored : StoredRelation}
    (h : c.catalog.Holds p schemaOid oid kind db stored) (ho : stored.relation.oid = oid)
    {statements : List Statement} (hu : u.statements stored.relation = .ok statements) :
    ∃ db', db.applyAll statements = .ok db' ∧
      c.changeRelation p schemaOid oid kind u = (.ok stored.relation, c.putDatabase p db') := by
  have ha := Database.applyAll_of_statements h.found ho hu
  exact ⟨_, ha, changeRelation_performs h hu ⟨hh.connect, hh.relation, .inr hh.execute, ha⟩⟩

theorem status_of_reach {e : CatalogError} (h : c.catalog.reach p = .error e) :
    (ConsoleError.catalog e).status = 410 ∨ (ConsoleError.catalog e).status = 503 := by
  rw [Catalog.reach_eq] at h
  split at h
  · cases h
    exact .inl rfl
  split at h
  · cases h
    exact .inl rfl
  split at h
  · cases h
    exact .inr rfl
  split at h
  · cases h
    exact .inl rfl
  · cases h

/-- What an update of a relation is answered with on a console without faults: that it is done, that
something in it cannot be read or is not accepted, that the path is none, that the object is gone,
or that the server lets nobody in. -/
def updateStatuses : List Nat := [200, 400, 404, 410, 503]

theorem status_changeRelation (hh : c.faults.Harmless) (ht : c.catalog.Tidy) {e : ConsoleError}
    {c' : Console} (h : c.changeRelation p schemaOid oid kind u = (.error e, c')) :
    e.status ∈ updateStatuses := by
  cases hr : c.catalog.reach p with
  | error e =>
    rw [changeRelation_unreached hh hr] at h
    cases h
    rcases status_of_reach hr with hs | hs <;> rw [hs] <;> decide
  | ok _ =>
    obtain ⟨db, hs⟩ := Catalog.serves_of_reach hr
    by_cases hheld : ∃ stored, c.catalog.Holds p schemaOid oid kind db stored
    · obtain ⟨stored, hstored⟩ := hheld
      cases hu : u.statements stored.relation with
      | error refusal =>
        rw [changeRelation_unmade hh hstored hu] at h
        cases h
        change 400 ∈ updateStatuses
        decide
      | ok statements =>
        have ho := (ht p db (Catalog.database_eq_ok.mp hs.database)).relationOid hstored.found
        obtain ⟨_, _, hmade⟩ := changeRelation_made hh hstored ho hu
        rw [hmade] at h
        cases h
    · rw [changeRelation_missing hh hs (not_exists.mp hheld)] at h
      cases h
      change 410 ∈ updateStatuses
      decide

theorem status_respondRelationUpdate (hh : c.faults.Harmless) (ht : c.catalog.Tidy)
    (kind : RelationKind) (p : DatabasePath) (schemaOid oid : Oid) (body : String) :
    (c.respondRelationUpdate kind p schemaOid oid body).1.status ∈ updateStatuses := by
  unfold respondRelationUpdate
  split
  · next e hb =>
    have he : e.status = 400 := by
      unfold readBody at hb
      split at hb <;> cases hb
      rfl
    change e.status ∈ updateStatuses
    rw [he]
    decide
  · split
    · next h => exact status_changeRelation hh ht h
    · change 200 ∈ updateStatuses
      decide

theorem serve_of_route_error {e : Endpoint} {parameters : List Parameter} {error : PathError}
    (hp : (segments? r.uri).bind Endpoint.ofSegments? = some (e, parameters))
    (hm : r.method ∈ e.methods) (hhead : r.method ≠ "HEAD")
    (hr : e.route parameters = .error error) (c : Console) : c.serve r = (badPath e error, c) := by
  unfold serve respondEndpoint
  simp only [hp, if_pos hm, hr, if_neg hhead]

theorem put_mem_methods {e : Endpoint} (he : e = .table ∨ e = .materializedView) :
    "PUT" ∈ e.methods := by
  rcases he with rfl | rfl <;> decide

theorem relation_of_endpoint {e : Endpoint} (he : e = .table ∨ e = .materializedView)
    {parameters : List Parameter} {route : Route} (h : e.route parameters = .ok route) :
    ∃ kind p schemaOid oid, route = .relation kind p schemaOid oid := by
  obtain ⟨texts, _, h⟩ := bind_eq_ok.mp h
  have hrelation : ∀ kind, Endpoint.relation kind texts = .ok route →
      ∃ kind p schemaOid oid, route = .relation kind p schemaOid oid := by
    intro kind h
    obtain ⟨p, _, h⟩ := bind_eq_ok.mp h
    obtain ⟨schemaOid, _, h⟩ := bind_eq_ok.mp h
    obtain ⟨oid, _, h⟩ := bind_eq_ok.mp h
    cases h
    exact ⟨kind, p, schemaOid, oid, rfl⟩
  rcases he with rfl | rfl
  · exact hrelation .table h
  · exact hrelation .materializedView h

theorem status_serve_update (hh : c.faults.Harmless) (ht : c.catalog.Tidy) {e : Endpoint}
    {parameters : List Parameter} (hm : r.method = "PUT")
    (hp : (segments? r.uri).bind Endpoint.ofSegments? = some (e, parameters))
    (he : e = .table ∨ e = .materializedView) : (c.serve r).1.status ∈ updateStatuses := by
  have hmethod : r.method ∈ e.methods := by
    rw [hm]
    exact put_mem_methods he
  cases hroute : e.route parameters with
  | error error =>
    have hhead : r.method ≠ "HEAD" := by
      rw [hm]
      decide
    rw [serve_of_route_error hp hmethod hhead hroute]
    change (badPath e error).status ∈ updateStatuses
    have hs : (badPath e error).status = 404 := by
      rcases he with rfl | rfl <;> rfl
    rw [hs]
    decide
  | ok route =>
    obtain ⟨kind, p, schemaOid, oid, rfl⟩ := relation_of_endpoint he hroute
    rw [serve_update hm (route?_eq_some.mpr ⟨e, parameters, hp, hmethod, hroute⟩)]
    exact status_respondRelationUpdate hh ht kind p schemaOid oid r.body

theorem made_of_status (hh : c.faults.Harmless) (hm : r.method = "PUT")
    (hr : r.route? = some (.relation kind p schemaOid oid)) {db : Database}
    {stored : StoredRelation} (h : c.catalog.Holds p schemaOid oid kind db stored)
    (hs : (c.serve r).1.status = 200) :
    ∃ u statements, readBody RelationUpdate.read? r.body = .ok u ∧
      u.statements stored.relation = .ok statements := by
  rw [serve_update hm hr] at hs
  unfold respondRelationUpdate at hs
  split at hs
  · next e he => exact absurd hs (status_ne_ok e)
  · next u hb =>
    cases hu : u.statements stored.relation with
    | error refusal =>
      simp only [changeRelation_unmade hh h hu] at hs
      exact absurd hs (status_ne_ok (.badRequest refusal))
    | ok statements => exact ⟨u, statements, hb, hu⟩

/-- Whenever the statements of an update of a relation can be made, they can be carried out, for a
relation of any kind. So without faults no update of a table or a materialized view ends with 500:
where the relation is there and the update can be read, it is done if its statements can be made,
and otherwise answered with 400 and why they cannot. -/
theorem relation_updates_carried_out (c : Console) (hc : c.Evolved) :
    (∀ (p : DatabasePath) (oid : Oid) (db : Database) (stored : StoredRelation)
        (u : RelationUpdate) (statements : List Statement),
      c.catalog.database p = .ok db → db.relation oid = .ok stored →
      u.statements stored.relation = .ok statements →
      ∃ relation : Relation, relation.core = stored.relation.core ∧
        c.catalog.execute p statements =
          .ok (c.catalog.putDatabase p (db.putRelation oid stored relation))) ∧
    (c.faults.Harmless → ∀ (r : Request) (e : Endpoint) (parameters : List Parameter),
      r.method = "PUT" →
      (segments? r.uri).bind Endpoint.ofSegments? = some (e, parameters) →
      e = .table ∨ e = .materializedView →
      (c.serve r).1.status ∈ updateStatuses ∧
      ∀ (kind : RelationKind) (p : DatabasePath) (schemaOid oid : Oid) (db : Database)
        (stored : StoredRelation) (u : RelationUpdate),
        e.route parameters = .ok (.relation kind p schemaOid oid) →
        c.catalog.Holds p schemaOid oid kind db stored →
        readBody RelationUpdate.read? r.body = .ok u →
        (∀ statements, u.statements stored.relation = .ok statements →
          (c.serve r).1.status = 200 ∧ ∃ db', db.applyAll statements = .ok db' ∧
            (c.serve r).2 = c.putDatabase p db') ∧
        (∀ refusal, u.statements stored.relation = .error refusal →
          c.serve r = (.failure (.badRequest refusal), c))) := by
  refine ⟨fun p oid db stored u statements hd hr hu => ?_, fun hh r e parameters hm hp he => ?_⟩
  · have hf := Database.relation_eq_ok.mp hr
    have ho := (hc.tidy p db (Catalog.database_eq_ok.mp hd)).relationOid hf
    refine ⟨_, stored.relation.core_foldl_rewrite statements, ?_⟩
    rw [Catalog.execute_eq hd, Database.applyAll_of_statements hf ho hu]
    rfl
  · refine ⟨status_serve_update hh hc.tidy hm hp he, ?_⟩
    intro kind p schemaOid oid db stored u hroute h hb
    have hmethod : r.method ∈ e.methods := by
      rw [hm]
      exact put_mem_methods he
    rw [serve_update hm (route?_eq_some.mpr ⟨e, parameters, hp, hmethod, hroute⟩)]
    unfold respondRelationUpdate
    rw [hb]
    refine ⟨fun statements hu => ?_, fun refusal hu => ?_⟩
    · have ho := (hc.tidy p db (Catalog.database_eq_ok.mp h.serves.database)).relationOid h.found
      obtain ⟨db', ha, hmade⟩ := changeRelation_made hh h ho hu
      simp only [hmade]
      exact ⟨rfl, db', ha, rfl⟩
    · simp only [changeRelation_unmade hh h hu]

def viewSteps : List Step :=
  [.createRelation ⟨1, 1, 16384⟩ ⟨"public", "v", .view, [⟨"id", "text", false⟩], []⟩,
    .createMaterializedView ⟨1, 1, 16384⟩ "public" "m" [⟨"id", "text", false⟩] false]

def clearing : RelationUpdate := ⟨some "x", ⟨some false, none, []⟩, ⟨none, none, []⟩⟩

def clearingView : Request where
  method := "PUT"
  uri := "/browser/mview/obj/1/1/16384/16385/16387"
  body := "\x7b\"description\":\"x\",\"autovacuum_custom\":false\x7d"

/-- A view has no options, and can still have them reset. -/
theorem relation_updates_carried_out_clearing : ∃ (c : Console) (view stored : StoredRelation)
    (u : RelationUpdate) (statements more : List Statement) (catalog : Catalog) (db db' : Database),
    view.relation.kind = .view ∧ clearing.statements view.relation = .ok statements ∧
    statements.length = 2 ∧ c.catalog.execute ⟨1, 1, 16384⟩ statements = .ok catalog ∧
    stored.relation.kind = .materializedView ∧ u.statements stored.relation = .ok more ∧
    db.applyAll more = .ok db' ∧ (c.serve clearingView).2 = c.putDatabase ⟨1, 1, 16384⟩ db' := by
  have hany : (((Console.new .standard 1).run viewSteps).catalog.database
      ⟨1, 1, 16384⟩).toOption.any (fun db => (db.relation 16386).toOption.any fun view =>
        decide (view.relation.kind = .view) && (clearing.statements view.relation).toOption.any
          fun statements => decide (statements.length = 2)) = true := by
    decide +kernel
  have hpath : ((segments? clearingView.uri).bind Endpoint.ofSegments?).any (fun x =>
      decide (x.1 = .materializedView ∧ (x.1.route x.2).toOption =
        some (.relation .materializedView ⟨1, 1, 16384⟩ 16385 16387))) = true := by
    decide +kernel
  have hreach : ((Console.new .standard 1).run viewSteps).catalog.reach ⟨1, 1, 16384⟩ =
      .ok () := rfl
  have hrelation : (((Console.new .standard 1).run viewSteps).catalog.relation
      ⟨1, 1, 16384⟩ 16387).toOption.map (fun r => (r.schemaOid, r.kind)) =
        some (16385, .materializedView) := by
    decide +kernel
  have hstatus : (((Console.new .standard 1).run viewSteps).serve clearingView).1.status = 200 := by
    decide +kernel
  have hc : ((Console.new .standard 1).run viewSteps).Evolved :=
    ⟨.standard, 1, viewSteps, .inr rfl, rfl⟩
  have hh : ((Console.new .standard 1).run viewSteps).faults.Harmless :=
    ⟨rfl, rfl, rfl, rfl, rfl, rfl⟩
  generalize (Console.new .standard 1).run viewSteps = c at *
  obtain ⟨hexecuted, hserved⟩ := relation_updates_carried_out c hc
  obtain ⟨db, hd, hany⟩ := (Option.any_eq_true _ _).mp hany
  obtain ⟨view, hv, hany⟩ := (Option.any_eq_true _ _).mp hany
  obtain ⟨hk, hany⟩ := (Bool.and_eq_true _ _).mp hany
  obtain ⟨statements, hs, hlength⟩ := (Option.any_eq_true _ _).mp hany
  rw [toOption_eq_some] at hd hv hs
  obtain ⟨_, _, hx⟩ := hexecuted ⟨1, 1, 16384⟩ 16386 db view clearing statements hd hv hs
  obtain ⟨⟨e, parameters⟩, hp, hroute⟩ := (Option.any_eq_true _ _).mp hpath
  obtain ⟨rfl, hroute⟩ := of_decide_eq_true hroute
  obtain ⟨_, hdone⟩ := hserved hh clearingView .materializedView parameters rfl hp (.inr rfl)
  obtain ⟨r, hr, he⟩ := toOption_map_eq_some.mp hrelation
  rw [Prod.mk.injEq] at he
  obtain ⟨db', stored, hholds, rfl⟩ := Catalog.exists_holds hreach hr
  rw [he.1, he.2] at hholds
  have hserves : clearingView.route? =
      some (.relation .materializedView ⟨1, 1, 16384⟩ 16385 16387) :=
    route?_eq_some.mpr ⟨_, parameters, hp, by decide, toOption_eq_some.mp hroute⟩
  obtain ⟨u, more, hb, hu⟩ := made_of_status hh rfl hserves hholds hstatus
  obtain ⟨hmade, _⟩ := hdone .materializedView _ _ _ db' stored u (toOption_eq_some.mp hroute)
    hholds hb
  obtain ⟨_, db'', ha, hafter⟩ := hmade more hu
  exact ⟨c, view, stored, u, statements, more, _, db', db'', of_decide_eq_true hk, hs,
    of_decide_eq_true hlength, hx, he.2, hu, ha, hafter⟩

end Console

end DbConsole
