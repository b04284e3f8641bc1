import DbConsole.Proofs.Console.Calls

namespace DbConsole.Console

open Http

variable {c c' : Console}

def Altered (c c' : Console) : Prop :=
  c' = c ∨ ∃ catalog, c.catalog.Change catalog ∧ c' = { c with catalog }

theorem Altered.outer (h : c.Altered c') : c.OuterMoves c' := by
  rcases h with rfl | ⟨catalog, h, rfl⟩
  · exact .refl
  · exact .single (.change catalog h)

theorem altered_of_carryOut {k : Connection} {statements : Except BadRequest (List Statement)}
    (h : c.carryOut k statements = .ok c') : c.Altered c' := by
  obtain ⟨statements, _, h⟩ := bind_eq_ok.mp h
  have hx := mapError_eq_ok.mp h
  unfold executeAny at hx
  split at hx
  · cases hx
    exact .inl rfl
  · exact .inr (execute_eq_ok hx)

theorem outer_withConnection {α : Type} (c : Console) (p : DatabasePath)
    {operation : Console → Connection → Except ConsoleError α × Console}
    (h : ∀ (c : Console) (k : Connection), c.Altered (operation c k).2) :
    c.OuterMoves (c.withConnection p operation).2 := by
  unfold withConnection
  split
  · exact .refl
  · next k c₁ hk =>
    obtain ⟨_, hk⟩ := connect_eq_ok hk
    cases hk
    change c.OuterMoves ((operation (c.lend 1) ⟨p⟩).2.release 1)
    rcases h (c.lend 1) ⟨p⟩ with he | ⟨catalog, hc, he⟩
    · have hr : (c.lend 1).release 1 = c := release_lend c 0 1
      rw [he, hr]
    · rw [he]
      exact .single (.change catalog hc)

theorem outer_viewRelation (c : Console) (p : DatabasePath) (schemaOid oid : Oid)
    (kind : RelationKind) : c.OuterMoves (c.viewRelation p schemaOid oid kind).2 :=
  outer_withConnection c p fun _ _ => .inl rfl

theorem outer_viewTrigger (c : Console) (p : DatabasePath) (schemaOid tableOid oid : Oid) :
    c.OuterMoves (c.viewTrigger p schemaOid tableOid oid).2 :=
  outer_withConnection c p fun _ _ => .inl rfl

theorem outer_changeRelation (c : Console) (p : DatabasePath) (schemaOid oid : Oid)
    (kind : RelationKind) (u : RelationUpdate) :
    c.OuterMoves (c.changeRelation p schemaOid oid kind u).2 := by
  refine outer_withConnection c p fun c k => ?_
  split
  · exact .inl rfl
  · split
    · exact .inl rfl
    · next h => exact altered_of_carryOut h

theorem outer_changeTrigger (c : Console) (p : DatabasePath) (schemaOid tableOid oid : Oid)
    (u : TriggerUpdate) : c.OuterMoves (c.changeTrigger p schemaOid tableOid oid u).2 := by
  refine outer_withConnection c p fun c k => ?_
  split
  · exact .inl rfl
  · split
    · exact .inl rfl
    · next h => exact altered_of_carryOut h

theorem outer_respondRelationUpdate (c : Console) (kind : RelationKind) (p : DatabasePath)
    (schemaOid oid : Oid) (body : String) :
    c.OuterMoves (c.respondRelationUpdate kind p schemaOid oid body).2 := by
  unfold respondRelationUpdate
  split
  · exact .refl
  · next u _ =>
    have h := outer_changeRelation c p schemaOid oid kind u
    split
    · next he =>
      rw [he] at h
      exact h
    · next he =>
      rw [he] at h
      exact h

theorem outer_respondTriggerUpdate (c : Console) (p : DatabasePath)
    (schemaOid tableOid oid : Oid) (body : String) :
    c.OuterMoves (c.respondTriggerUpdate p schemaOid tableOid oid body).2 := by
  unfold respondTriggerUpdate
  split
  · exact .refl
  · next u _ =>
    have h := outer_changeTrigger c p schemaOid tableOid oid u
    split
    · next he =>
      rw [he] at h
      exact h
    · next he =>
      rw [he] at h
      exact h

theorem respond_snd {α : Type} (c : Console) (data : α → Json)
    (result : Except ViewError (α × Console)) : (c.respond data result).2 = c.upon result := by
  cases result <;> rfl

theorem respondRoute_of_calls {route : Route} {body : String} (h : route.calls body ≠ [])
    (update : Bool) : (c.respondRoute update body route).2 = c.callAll (route.calls body) := by
  cases route with
  | openView id mode kind database oid =>
    simp only [respondRoute, Route.calls] at h ⊢
    cases hr : readRequest mode kind database oid body with
    | error e => simp [hr] at h
    | ok request => rfl
  | start id => exact (respond_snd c _ _).trans (upon_start c id)
  | poll id => exact (respond_snd c _ _).trans (upon_poll c id)
  | fetch id => exact (respond_snd c _ _).trans (upon_fetch c id)
  | close id => rfl
  | health | relation | trigger => exact (h rfl).elim

theorem outer_respondRoute {route : Route} {body : String} (h : route.calls body = [])
    (update : Bool) : c.OuterMoves (c.respondRoute update body route).2 := by
  cases route with
  | openView id mode kind database oid =>
    simp only [respondRoute, Route.calls] at h ⊢
    cases hr : readRequest mode kind database oid body with
    | error e => exact .refl
    | ok request => simp [hr] at h
  | start | poll | fetch | close => cases h
  | health => exact .refl
  | relation kind p schemaOid oid =>
    cases update with
    | true => exact outer_respondRelationUpdate c kind p schemaOid oid body
    | false => exact outer_viewRelation c p schemaOid oid kind
  | trigger p schemaOid tableOid oid =>
    cases update with
    | true => exact outer_respondTriggerUpdate c p schemaOid tableOid oid body
    | false => exact outer_viewTrigger c p schemaOid tableOid oid

theorem status_badPath (e : Endpoint) (error : PathError) : (badPath e error).status ≠ 200 := by
  unfold badPath
  split <;> simp [Response.failure, ConsoleError.status]

theorem serve_of_no_route {r : Request} (h : r.route? = none) :
    ∃ response : Response, response.status ≠ 200 ∧ ∀ c : Console, c.serve r = (response, c) := by
  unfold Request.route? at h
  unfold serve
  split at h
  · next e parameters he =>
    simp only [he]
    split
    · next hm =>
      rw [if_pos hm] at h
      unfold respondEndpoint
      cases hr : e.route parameters with
      | error error =>
        refine ⟨if r.method = "HEAD" then (badPath e error).headOnly else badPath e error, ?_,
          fun _ => rfl⟩
        split <;> exact status_badPath e error
      | ok route => simp [hr, Except.toOption] at h
    · exact ⟨.empty 405, by simp [Response.empty], fun _ => rfl⟩
  · next hn =>
    simp only [hn]
    exact ⟨.empty 404, by simp [Response.empty], fun _ => rfl⟩

theorem serve_of_route {r : Request} {route : Route} (h : r.route? = some route) (c : Console) :
    c.serve r = (if r.method = "HEAD"
        then (c.respondRoute (r.method = "PUT") r.body route).1.headOnly
        else (c.respondRoute (r.method = "PUT") r.body route).1,
      (c.respondRoute (r.method = "PUT") r.body route).2) := by
  unfold Request.route? at h
  unfold serve
  split at h
  · next e parameters he =>
    simp only [he]
    split at h
    · next hm =>
      rw [if_pos hm]
      unfold respondEndpoint
      cases hr : e.route parameters with
      | error error => simp [hr, Except.toOption] at h
      | ok route' =>
        have hroute : route' = route := by simpa [hr, Except.toOption] using h
        rw [hroute]
    · cases h
  · cases h

theorem status_of_route {r : Request} {route : Route} (h : r.route? = some route) :
    (c.serve r).1.status = (c.respondRoute (r.method = "PUT") r.body route).1.status := by
  rw [serve_of_route h]
  dsimp only
  split <;> rfl

theorem serve_of_calls {r : Request} (h : r.calls ≠ []) : (c.serve r).2 = c.callAll r.calls := by
  unfold Request.calls at h ⊢
  cases hr : r.route? with
  | none => simp [hr] at h
  | some route =>
    rw [hr] at h
    rw [serve_of_route hr]
    exact respondRoute_of_calls h _

theorem outer_serve {r : Request} (h : r.calls = []) : c.OuterMoves (c.serve r).2 := by
  unfold Request.calls at h
  cases hr : r.route? with
  | none =>
    obtain ⟨response, _, he⟩ := serve_of_no_route hr
    rw [he]
  | some route =>
    rw [hr] at h
    rw [serve_of_route hr]
    exact outer_respondRoute h _

theorem outer_changeCatalog {α : Type} {answer : α → Answer}
    {result : Except CatalogError (α × Catalog)}
    (h : ∀ r, result = .ok r → c.catalog.Builds r.2) :
    c.OuterMoves (c.changeCatalog answer result).2 := by
  cases result with
  | error e => exact .refl
  | ok r => exact .single (.change r.2 (h r rfl).change)

theorem outer_alterCatalog {result : Except CatalogError Catalog}
    (h : ∀ catalog, result = .ok catalog → c.catalog.Builds catalog) :
    c.OuterMoves (c.alterCatalog result).2 := by
  cases result with
  | error e => exact .refl
  | ok catalog => exact .single (.change catalog (h catalog rfl).change)

theorem outer_withLink {link : String} {use : Connection → Answer × Console}
    (h : ∀ k, c.OuterMoves (use k).2) : c.OuterMoves (c.withLink link use).2 := by
  unfold withLink
  split
  · exact h _
  · exact .refl

theorem outer_stepInsert (c : Console) (p : DatabasePath) (oid : Oid) (rows : List Row) :
    c.OuterMoves (c.stepInsert p oid rows).2 := by
  unfold stepInsert
  split
  · next h => exact .single (.change _ (Catalog.builds_of_insert h).change)
  · exact .refl
  · exact .refl

theorem outer_stepConnect (c : Console) (link : String) (p : DatabasePath) :
    c.OuterMoves (c.stepConnect link p).2 := by
  unfold stepConnect
  split
  · exact .refl
  · next h =>
    obtain ⟨hr, hk⟩ := connect_eq_ok h
    cases hk
    exact .single (.link link ⟨p⟩ hr)

theorem outer_stepDisconnect (c : Console) (link : String) :
    c.OuterMoves (c.stepDisconnect link).2 := by
  unfold stepDisconnect
  split
  · next h => exact .single (.unlink link h)
  · exact .refl

theorem outer_stepExecute (c : Console) (k : Connection) (statements : List Statement) :
    c.OuterMoves (c.stepExecute k statements).2 := by
  unfold stepExecute
  split
  · next h => exact Altered.outer (.inr (execute_eq_ok h))
  · exact .refl

theorem outer_stepHold (c : Console) (id name : String) :
    c.OuterMoves (c.step (.hold id name)).2 := by
  dsimp only [Console.step]
  split
  · next h =>
    obtain ⟨s, _, h⟩ := bind_eq_ok.mp h
    cases h
    exact .single (.hold name _)
  · exact .refl

theorem outer_step {step : Step} (h : step.calls = []) (hf : ∀ faults, step ≠ .setFaults faults) :
    c.OuterMoves (c.step step).2 := by
  cases step with
  | placeGroup g => exact .single (.change _ (.placeGroup g))
  | placeServer g s name => exact outer_alterCatalog fun _ => Catalog.builds_of_placeServer
  | createDatabase g s name => exact outer_changeCatalog fun _ => Catalog.builds_of_createDatabase
  | createSchema p name => exact outer_changeCatalog fun _ => Catalog.builds_of_createSchema
  | databaseNamed | schemaNamed => exact .refl
  | createRelation p d => exact outer_changeCatalog fun _ => Catalog.builds_of_createStored
  | createMaterializedView p schema name columns populated =>
    exact outer_changeCatalog fun _ => Catalog.builds_of_createStored
  | refresh p oid rows => exact outer_alterCatalog fun _ => Catalog.builds_of_refresh
  | insert p oid rows => exact outer_stepInsert c p oid rows
  | createTrigger p tableOid name function =>
    exact outer_changeCatalog fun _ => Catalog.builds_of_createTrigger
  | setAvailable g s available => exact outer_alterCatalog fun _ => Catalog.builds_of_setAvailable
  | connect link p => exact outer_stepConnect c link p
  | disconnect link => exact outer_stepDisconnect c link
  | viewRelation | viewTrigger | query => exact outer_withLink fun _ => .refl
  | execute link statements => exact outer_withLink fun k => outer_stepExecute c k statements
  | hasSession id => exact .refl
  | closeIdle seconds =>
    have hs : seconds ≠ 0 := by
      rintro rfl
      cases h
    simp only [Console.step, closeIdle, if_neg hs]
    exact .refl
  | sweep seconds => simp [Step.calls] at h
  | hold id name => exact outer_stepHold c id name
  | heldState name =>
    dsimp only [Console.step, withHeld]
    split <;> exact .refl
  | setFaults faults => exact absurd rfl (hf faults)
  | serve r => exact outer_serve h
  | openSession | openFresh | openPair | start | poll | fetch | close | closeAll | settle
  | startHeld | pollHeld | fetchHeld | closeHeld => cases h

theorem changeView_snd {α : Type} (c : Console) (answer : α → Answer)
    (result : Except ViewError (α × Console)) :
    (c.changeView answer result).2 = c.upon result := by
  cases result <;> rfl

theorem withHeld_snd {name : String} {use : Handle → Session → Answer × Console}
    {f : Handle → Console} (h : ∀ hd s, c.sessionAt hd = some s → (use hd s).2 = f hd)
    (hn : ∀ hd, c.sessionAt hd = none → f hd = c) :
    (c.withHeld name use).2 = (c.handles.find? name).elim c f := by
  unfold withHeld held?
  cases c.handles.find? name with
  | none => rfl
  | some hd =>
    change _ = f hd
    cases hs : c.sessionAt hd with
    | none =>
      rw [hn hd hs]
      unfold sessionAt at hs
      simp [hs]
    | some s =>
      rw [← h hd s hs]
      unfold sessionAt at hs
      simp [hs]

theorem step_of_calls {step : Step} (h : step.calls ≠ []) :
    (c.step step).2 = c.callAll step.calls := by
  cases step with
  | openSession | openFresh | openPair | close | closeAll | settle => rfl
  | start id => exact (changeView_snd c _ _).trans (upon_start c id)
  | poll id => exact (changeView_snd c _ _).trans (upon_poll c id)
  | fetch id => exact (changeView_snd c _ _).trans (upon_fetch c id)
  | closeIdle seconds =>
    simp only [Console.step, closeIdle, Step.calls] at h ⊢
    split
    · rfl
    · next hs => simp [hs] at h
  | sweep seconds =>
    simp only [Console.step, closeIdle, Step.calls]
    split <;> rfl
  | startHeld name size =>
    exact withHeld_snd (fun hd s hs => (changeView_snd c _ _).trans (upon_startHeld hs size))
      fun hd hn => actAt_of_none hn _ _
  | pollHeld name size =>
    exact withHeld_snd (fun hd s hs => (actAt_eq hs .poll size).symm)
      fun hd hn => actAt_of_none hn _ _
  | fetchHeld name size =>
    exact withHeld_snd (fun hd s hs => (changeView_snd c _ _).trans (upon_fetchHeld hs size))
      fun hd hn => actAt_of_none hn _ _
  | closeHeld name =>
    change (c.withHeld name _).2 = c.call (.closeHeld name)
    simp only [withHeld, call]
    cases c.held? name <;> rfl
  | serve r => exact serve_of_calls h
  | _ => exact (h rfl).elim

theorem moves_step (c : Console) (step : Step) (h : ∀ faults, step ≠ .setFaults faults) :
    c.Moves (c.step step).2 := by
  by_cases hc : step.calls = []
  · exact .outside (outer_step hc h)
  · rw [step_of_calls hc]
    exact .sessions _ (sessions_callAll c step.calls)

theorem sessions_step (c : Console) (step : Step) :
    (c.step step).2.sessions = (c.callAll step.calls).sessions := by
  by_cases hc : step.calls = []
  · rw [hc]
    by_cases hf : ∃ faults, step = .setFaults faults
    · obtain ⟨faults, rfl⟩ := hf
      rfl
    · exact sessions_eq_of_outerMoves (outer_step hc fun faults he => hf ⟨faults, he⟩)
  · rw [step_of_calls hc]

theorem run_append (c : Console) (steps more : List Step) :
    c.run (steps ++ more) = (c.run steps).run more := List.foldl_append

theorem run_preserves {P : Console → Prop}
    (faults : ∀ {c : Console} (f : Faults), P c → P { c with faults := f })
    (moves : ∀ {c c' : Console}, P c → c.Moves c' → P c') (steps : List Step) (h : P c) :
    P (c.run steps) := by
  induction steps generalizing c with
  | nil => exact h
  | cons step rest ih =>
    refine ih ?_
    by_cases hf : ∃ f, step = .setFaults f
    · obtain ⟨f, rfl⟩ := hf
      exact faults f h
    · exact moves h (moves_step c step fun f he => hf ⟨f, he⟩)

theorem catalog_of_moves (h : c.Moves c') :
    c'.catalog = c.catalog ∨ c.catalog.Change c'.catalog := by
  cases h with
  | stay => exact .inl rfl
  | outer _ h =>
    cases h with
    | change catalog h => exact .inr h
    | hold | link | unlink => exact .inl rfl
  | sessions _ h => exact .inl (catalog_eq_of_sessions h)

/-- What changes of a catalog keep is true of the catalog of a console, whatever happens to it. -/
theorem catalog_preserves {P : Catalog → Prop}
    (change : ∀ {a b : Catalog}, P a → a.Change b → P b) (steps : List Step) (h : P c.catalog) :
    P (c.run steps).catalog := by
  refine run_preserves (P := fun c => P c.catalog) (fun _ h => h) ?_ steps h
  intro c₁ c₂ h₁ hm
  rcases catalog_of_moves hm with he | hc
  · rw [he]
    exact h₁
  · exact change h₁ hc

end DbConsole.Console
