import DbConsole.Proofs.Console.Updates

namespace DbConsole.Console

open Http

variable {c : Console} {p : DatabasePath} {schemaOid tableOid oid : Oid} {kind : RelationKind}

variable {db db' : Database} {stored : StoredRelation} {u : RelationUpdate}
  {statements : List Statement}

theorem Performs.rewrites (h : c.Performs db statements db') (ht : c.catalog.Tidy)
    (hstored : c.catalog.Holds p schemaOid oid kind db stored) (hk : kind.hasParameters = true)
    (hu : u.statements stored.relation = .ok statements) :
    u.Accepted ∧ db' = db.putRelation oid stored (u.rewritten stored.relation) := by
  have haccepted : u.Accepted := by
    by_contra hn
    obtain ⟨error, hr⟩ := RelationUpdate.statements_refused hn stored.relation
    rw [hr] at hu
    cases hu
  have ho := (ht p db (Catalog.database_eq_ok.mp hstored.serves.database)).relationOid hstored.found
  obtain ⟨statements', hs, ha⟩ :=
    Database.applyAll_statements hstored.found ho (hstored.kind ▸ hk) haccepted
  cases hu.symm.trans hs
  cases h.applied.symm.trans ha
  exact ⟨haccepted, rfl⟩

/-- What a step makes of the catalog. -/
inductive Effect (c : Console) : Step → Catalog → Prop where
  | nothing (step : Step) : Effect c step c.catalog
  | builds (step : Step) (catalog : Catalog) (h : c.catalog.Builds catalog) : Effect c step catalog
  | executes (link : String) (k : Connection) (statements : List Statement) (catalog : Catalog)
    (hk : c.links.find? link = some k)
    (h : c.catalog.execute k.database statements = .ok catalog) :
    Effect c (.execute link statements) catalog
  | relation (r : Request) (kind : RelationKind) (p : DatabasePath) (schemaOid oid : Oid)
    (db : Database) (stored : StoredRelation) (u : RelationUpdate)
    (h : c.catalog.Holds p schemaOid oid kind db stored) (hu : u.Accepted) :
    Effect c (.serve r)
      (c.catalog.putDatabase p (db.putRelation oid stored (u.rewritten stored.relation)))
  | trigger (r : Request) (p : DatabasePath) (schemaOid tableOid oid : Oid) (db : Database)
    (t t' : Trigger) (h : c.catalog.HoldsTrigger p schemaOid tableOid oid db t) :
    Effect c (.serve r) (c.catalog.putDatabase p (db.putTrigger oid t'))

variable {step : Step}

theorem effect_changeCatalog {α : Type} {answer : α → Answer}
    {result : Except CatalogError (α × Catalog)}
    (h : ∀ r, result = .ok r → c.catalog.Builds r.2) :
    c.Effect step (c.changeCatalog answer result).2.catalog := by
  cases result with
  | error e => exact .nothing step
  | ok r => exact .builds step r.2 (h r rfl)

theorem effect_alterCatalog {result : Except CatalogError Catalog}
    (h : ∀ catalog, result = .ok catalog → c.catalog.Builds catalog) :
    c.Effect step (c.alterCatalog result).2.catalog := by
  cases result with
  | error e => exact .nothing step
  | ok catalog => exact .builds step catalog (h catalog rfl)

theorem effect_stepInsert (c : Console) (p : DatabasePath) (oid : Oid) (rows : List Row) :
    c.Effect step (c.stepInsert p oid rows).2.catalog := by
  unfold stepInsert
  split
  · next h => exact .builds step _ (Catalog.builds_of_insert h)
  · exact .nothing step
  · exact .nothing step

theorem catalog_stepConnect (c : Console) (link : String) (p : DatabasePath) :
    (c.stepConnect link p).2.catalog = c.catalog := by
  unfold stepConnect
  split
  · rfl
  · next h =>
    obtain ⟨_, h⟩ := connect_eq_ok h
    cases h
    rfl

theorem effect_execute (c : Console) (link : String) (statements : List Statement) :
    c.Effect (.execute link statements) (c.step (.execute link statements)).2.catalog := by
  simp only [Console.step, withLink]
  split
  · next k hk =>
    unfold stepExecute
    split
    · next c' h =>
      obtain ⟨catalog, hx, h⟩ := bind_eq_ok.mp h
      cases h
      exact .executes link k statements catalog hk (ok_of_strike hx)
    · exact .nothing _
  · exact .nothing _

theorem effect_relation (ht : c.catalog.Tidy) {r : Request} (hk : kind.hasParameters = true)
    (update : Bool) (body : String) : c.Effect (.serve r)
      (c.respondRoute update body (.relation kind p schemaOid oid)).2.catalog := by
  cases update with
  | false =>
    simp only [respondRoute]
    rcases viewRelation_cases c p schemaOid oid kind with ⟨e, he⟩ | ⟨_, _, _, he⟩ <;>
    · simp only [he]
      exact .nothing _
  | true =>
    change c.Effect _ (c.respondRelationUpdate kind p schemaOid oid body).2.catalog
    unfold respondRelationUpdate
    cases readBody RelationUpdate.read? body with
    | error e => exact .nothing _
    | ok u =>
      obtain ⟨e, he⟩ | ⟨db, stored, statements, db', hstored, hu, hperforms⟩ :=
        changeRelation_cases c p schemaOid oid kind u
      · simp only [he]
        exact .nothing _
      · obtain ⟨haccepted, rfl⟩ := hperforms.rewrites ht hstored hk hu
        simp only [changeRelation_performs hstored hu hperforms]
        exact .relation r kind p schemaOid oid db stored u hstored haccepted

theorem effect_trigger (ht : c.catalog.Tidy) {r : Request} (update : Bool) (body : String) :
    c.Effect (.serve r)
      (c.respondRoute update body (.trigger p schemaOid tableOid oid)).2.catalog := by
  cases update with
  | false =>
    simp only [respondRoute]
    rcases viewTrigger_cases c p schemaOid tableOid oid with ⟨e, he⟩ | ⟨_, _, _, he⟩ <;>
    · simp only [he]
      exact .nothing _
  | true =>
    change c.Effect _ (c.respondTriggerUpdate p schemaOid tableOid oid body).2.catalog
    cases hb : readBody TriggerUpdate.read? body with
    | error e =>
      unfold respondTriggerUpdate
      rw [hb]
      exact .nothing _
    | ok u =>
      obtain ⟨e, he⟩ | ⟨db, t, statements, htrigger, hft, hu, hperforms⟩ :=
        changeTrigger_cases ht p schemaOid tableOid oid u
      · unfold respondTriggerUpdate
        simp only [hb, he]
        exact .nothing _
      · rw [respondTriggerUpdate_performs hb htrigger hft hu hperforms]
        exact .trigger r p schemaOid tableOid oid db t _ htrigger

theorem effect_serve (ht : c.catalog.Tidy) {r : Request} (h : r.calls = []) :
    c.Effect (.serve r) (c.serve r).2.catalog := by
  cases hr : r.route? with
  | none =>
    obtain ⟨response, _, he⟩ := serve_of_no_route hr
    rw [he]
    exact .nothing _
  | some route =>
    have hcalls : route.calls r.body = [] := by
      rw [Request.calls, hr] at h
      exact h
    rw [serve_of_route hr]
    cases route with
    | relation kind p schemaOid oid => exact effect_relation ht (hasParameters_of_route hr) _ _
    | trigger p schemaOid tableOid oid => exact effect_trigger ht _ _
    | health => exact .nothing _
    | start | poll | fetch | close => cases hcalls
    | openView id mode kind database oid =>
      simp only [respondRoute, Route.calls] at hcalls ⊢
      cases hb : readRequest mode kind database oid r.body with
      | error e => exact .nothing _
      | ok request => simp [hb] at hcalls

theorem effect_step (ht : c.catalog.Tidy) (step : Step) :
    c.Effect step (c.step step).2.catalog := by
  by_cases hc : step.calls ≠ []
  · rw [step_of_calls hc, catalog_eq_of_sessions (sessions_callAll c step.calls)]
    exact .nothing step
  rw [not_not] at hc
  cases step with
  | placeGroup g => exact .builds _ _ (.placeGroup g)
  | placeServer g s name => exact effect_alterCatalog fun _ => Catalog.builds_of_placeServer
  | createDatabase g s name => exact effect_changeCatalog fun _ => Catalog.builds_of_createDatabase
  | createSchema p name => exact effect_changeCatalog fun _ => Catalog.builds_of_createSchema
  | createRelation p d => exact effect_changeCatalog fun _ => Catalog.builds_of_createStored
  | createMaterializedView p schema name columns populated =>
    exact effect_changeCatalog fun _ => Catalog.builds_of_createStored
  | refresh p oid rows => exact effect_alterCatalog fun _ => Catalog.builds_of_refresh
  | insert p oid rows => exact effect_stepInsert c p oid rows
  | createTrigger p tableOid name function =>
    exact effect_changeCatalog fun _ => Catalog.builds_of_createTrigger
  | setAvailable g s available =>
    exact effect_alterCatalog fun _ => Catalog.builds_of_setAvailable
  | execute link statements => exact effect_execute c link statements
  | serve r => exact effect_serve ht hc
  | setFaults | databaseNamed | schemaNamed | hasSession => exact .nothing _
  | connect link p =>
    rw [show (c.step (.connect link p)).2.catalog = c.catalog from catalog_stepConnect c link p]
    exact .nothing _
  | disconnect link =>
    simp only [Console.step, stepDisconnect]
    split <;> exact .nothing _
  | viewRelation | viewTrigger | query =>
    simp only [Console.step, withLink]
    split <;> exact .nothing _
  | heldState name =>
    simp only [Console.step, withHeld]
    split <;> exact .nothing _
  | hold id name =>
    simp only [Console.step]
    split
    · next h =>
      obtain ⟨s, _, h⟩ := bind_eq_ok.mp h
      cases h
      exact .nothing _
    · exact .nothing _
  | closeIdle seconds =>
    simp only [Console.step, closeIdle]
    split
    · next hs =>
      rw [hs] at hc
      cases hc
    · exact .nothing _
  | openSession | openFresh | openPair | start | poll | fetch | close | closeAll | sweep | settle
  | startHeld | pollHeld | fetchHeld | closeHeld => simp [Step.calls] at hc

end DbConsole.Console
