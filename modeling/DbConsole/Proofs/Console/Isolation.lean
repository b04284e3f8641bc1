import DbConsole.Proofs.Console.Beside
import DbConsole.Proofs.Console.Contest
import DbConsole.Proofs.Console.Settling

namespace DbConsole

/-- Answers that are the same but for a count of sessions. -/
inductive Answer.Alike : Answer → Answer → Prop where
  | same (a : Answer) : Alike a a
  | health (n m : Nat) :
    Alike (.response (.success (.object [("sessions", .nat n), ("status", .string "ok")])))
      (.response (.success (.object [("sessions", .nat m), ("status", .string "ok")])))

/-- Whether a route is about the sessions under an id. -/
def Http.Route.addresses (id : String) : Http.Route → Bool
  | .openView other .. | .start other | .poll other | .fetch other | .close other => other = id
  | .health | .relation .. | .trigger .. => false

def Step.sweeps : Step → Bool
  | .closeAll | .closeIdle _ | .sweep _ => true
  | _ => false

namespace Console

open Http

/-- Whether a step is about the sessions under an id. For a held session, that depends on which
session the name is for. -/
def addresses (c : Console) (id : String) : Step → Bool
  | .openSession other _ | .openPair other _ _ | .start other | .poll other | .fetch other
  | .close other | .hasSession other | .hold other _ => other = id
  | .openFresh random _ => Session.freshId random = id
  | .heldState name | .startHeld name _ | .pollHeld name _ | .fetchHeld name _
  | .closeHeld name => c.holds id name
  | .serve r => r.route?.any (·.addresses id)
  | _ => false

/-- The steps of a run that are not about an id, with the answers to them. -/
def others (c : Console) (id : String) : List Step → List (Step × Answer)
  | [] => []
  | step :: rest =>
    let (answer, next) := c.step step
    if c.addresses id step then next.others id rest else (step, answer) :: next.others id rest

def answers (c : Console) : List Step → List Answer
  | [] => []
  | step :: rest => (c.step step).1 :: (c.step step).2.answers rest

variable {c c' : Console} {id : String}

theorem beside_putLineage (c : Console) (id : String) (l : Lineage) :
    Beside id (c.putLineage id l) c where
  catalog := rfl
  links := rfl
  faults := rfl
  pageSize := rfl
  lineage other hi := by rw [lineage_putLineage, if_neg hi]
  handle _ _ := rfl

theorem beside_putSession (c : Console) (id : String) (s : Session) :
    Beside id (c.putSession id s) c := beside_putLineage c id _

theorem beside_of_openings (hm : Relation.ReflTransGen (OpenMove id) c c') : Beside id c' c := by
  induction hm with
  | refl => exact .refl id c
  | tail _ hm ih =>
    refine Beside.trans ?_ ih
    cases hm with
    | opened request r q hf hr hp => exact (beside_putSession _ id _).withConnections _ _

theorem beside_actAt {h : Handle} (hi : h.id = id) (c : Console) (a : Act) (size : Nat) :
    Beside id (c.actAt h a size) c := by
  unfold actAt
  split
  · rw [← hi]
    exact beside_putLineage c h.id _
  · exact .refl id c

theorem beside_close (c : Console) (id : String) : Beside id (c.close id).2 c := by
  unfold close
  split
  · exact (beside_putLineage c id _).withConnections _ _
  · exact .refl id c

theorem beside_hold (c : Console) (place : Nat) (name : String) :
    Beside id { c with handles := c.handles.insert name ⟨id, place⟩ } c :=
  { Beside.refl id c with
    handle other hn := by
      unfold holds at hn
      rw [SortedMap.find?_insert] at hn ⊢
      split at hn
      · simp at hn
      · next hne => rw [if_neg hne] }

/-- What can be asked of the sessions under an id. -/
inductive Within (c : Console) (id : String) : Call → Prop where
  | openSession (request : ViewRequest) : Within c id (.openSession id request)
  | openPair (request : ViewRequest) (turns : List Turn) : Within c id (.openPair id request turns)
  | registered (a : Act) : Within c id (.registered id a)
  | close : Within c id (.close id)
  | held (name : String) (a : Act) (size : Nat) (hn : c.holds id name = true) :
    Within c id (.held name a size)
  | closeHeld (name : String) (hn : c.holds id name = true) : Within c id (.closeHeld name)

theorem beside_call {a : Call} (ha : c.Within id a) : Beside id (c.call a) c := by
  cases ha with
  | openSession request => exact beside_of_openings (openSession_moves id request c)
  | openPair request turns => exact beside_of_openings (openPair_moves id request request c turns)
  | registered a => exact beside_actAt (h := c.place id) rfl c a c.pageSize
  | close => exact beside_close c id
  | held name a size hn =>
    simp only [call]
    cases hf : c.handles.find? name with
    | none => exact .refl id c
    | some h => exact beside_actAt (id_of_holds hn hf) c a size
  | closeHeld name hn =>
    simp only [call]
    cases hh : c.held? name with
    | none => exact .refl id c
    | some r =>
      rw [← id_of_holds hn (of_held hh).1]
      exact (beside_putLineage c r.1.id _).withConnections _ _

theorem beside_respondRoute {route : Route} (ha : route.addresses id = true) (update : Bool)
    (body : String) : Beside id (c.respondRoute update body route).2 c := by
  cases route with
  | openView other mode kind database oid =>
    cases of_decide_eq_true ha
    simp only [respondRoute]
    cases readRequest mode kind database oid body with
    | error e => exact .refl id c
    | ok request => exact beside_call (.openSession request)
  | start other | poll other | fetch other =>
    cases of_decide_eq_true ha
    rw [respondRoute_of_calls (by simp [Route.calls])]
    exact beside_call (.registered _)
  | close other =>
    cases of_decide_eq_true ha
    exact beside_close c id
  | health | relation | trigger => cases ha

theorem beside_stepHold (c : Console) (id name : String) :
    Beside id (c.step (.hold id name)).2 c := by
  dsimp only [Console.step]
  split
  · next h =>
    obtain ⟨_, _, h⟩ := bind_eq_ok.mp h
    cases h
    exact beside_hold c _ name
  · exact .refl id c

theorem beside_step {step : Step} (ha : c.addresses id step = true) :
    Beside id (c.step step).2 c := by
  cases step with
  | openSession other request =>
    cases of_decide_eq_true ha
    exact beside_call (.openSession request)
  | openFresh random request =>
    simp only [addresses, decide_eq_true_eq] at ha
    rw [step_of_calls (by simp [Step.calls]), ← ha]
    exact beside_call (.openSession request)
  | openPair other request turns =>
    cases of_decide_eq_true ha
    exact beside_call (.openPair request turns)
  | start other | poll other | fetch other =>
    cases of_decide_eq_true ha
    rw [step_of_calls (by simp [Step.calls])]
    exact beside_call (.registered _)
  | close other =>
    cases of_decide_eq_true ha
    exact beside_close c id
  | hasSession other => exact .refl id c
  | hold other name =>
    cases of_decide_eq_true ha
    exact beside_stepHold c id name
  | heldState name =>
    dsimp only [Console.step, withHeld]
    split <;> exact .refl id c
  | startHeld name size | pollHeld name size | fetchHeld name size =>
    rw [step_of_calls (by simp [Step.calls])]
    exact beside_call (.held name _ size ha)
  | closeHeld name =>
    rw [step_of_calls (by simp [Step.calls])]
    exact beside_call (.closeHeld name ha)
  | serve r =>
    obtain ⟨route, hr, ha⟩ := (Option.any_eq_true _ _).mp ha
    change Beside id (c.serve r).2 c
    rw [serve_of_route hr]
    exact beside_respondRoute ha _ _
  | _ => cases ha

theorem agree_respondRoute (h : Beside id c c') {route : Route} (ha : route.addresses id = false)
    (hh : route ≠ .health) (update : Bool) (body : String) :
    Agree id (c.respondRoute update body route) (c'.respondRoute update body route) := by
  cases route with
  | openView other mode kind database oid => exact h.respondOpening (of_decide_eq_false ha) _
  | start other => exact h.respond _ (h.start (of_decide_eq_false ha))
  | poll other => exact h.respond _ (h.poll (of_decide_eq_false ha))
  | fetch other => exact h.respond _ (h.fetch (of_decide_eq_false ha))
  | close other =>
    obtain ⟨closed, c₁, c₂, hx, hy, h₁⟩ := (h.close (of_decide_eq_false ha)).eq_and
    simp only [respondRoute, hx, hy]
    exact ⟨rfl, h₁⟩
  | health => exact (hh rfl).elim
  | relation kind p schemaOid oid =>
    cases update with
    | true => exact h.respondRelationUpdate kind p schemaOid oid body
    | false =>
      obtain ⟨answer, c₁, c₂, hx, hy, h₁⟩ := (h.viewRelation p schemaOid oid kind).eq_and
      simp only [respondRoute, hx, hy]
      exact ⟨rfl, h₁⟩
  | trigger p schemaOid tableOid oid =>
    cases update with
    | true => exact h.respondTriggerUpdate p schemaOid tableOid oid body
    | false =>
      obtain ⟨answer, c₁, c₂, hx, hy, h₁⟩ := (h.viewTrigger p schemaOid tableOid oid).eq_and
      simp only [respondRoute, hx, hy]
      exact ⟨rfl, h₁⟩

theorem agree_serve (h : Beside id c c') {r : Request} (ha : c.addresses id (.serve r) = false)
    (hh : r.route? ≠ some .health) : Agree id (c.serve r) (c'.serve r) := by
  cases hr : r.route? with
  | none =>
    obtain ⟨response, _, he⟩ := serve_of_no_route hr
    rw [he, he]
    exact ⟨rfl, h⟩
  | some route =>
    have ha' : route.addresses id = false := by simpa [addresses, hr] using ha
    have hh' : route ≠ .health := fun he => hh (hr.trans (congrArg some he))
    obtain ⟨response, c₁, c₂, hx, hy, h₁⟩ :=
      (agree_respondRoute h ha' hh' (r.method = "PUT") r.body).eq_and
    rw [serve_of_route hr, serve_of_route hr, hx, hy]
    exact ⟨rfl, h₁⟩

theorem agree_step (h : Beside id c c') {step : Step} (ha : c.addresses id step = false)
    (hs : step.sweeps = false) (hh : ∀ r, step = .serve r → r.route? ≠ some .health) :
    Agree id (c.step step) (c'.step step) := by
  cases step with
  | placeGroup g =>
    dsimp only [Console.step]
    rw [h.catalog]
    exact ⟨rfl, h.withCatalog _⟩
  | placeServer | refresh | setAvailable =>
    dsimp only [Console.step]
    rw [h.catalog]
    exact h.alterCatalog _
  | createDatabase | createSchema | createRelation | createMaterializedView | createTrigger =>
    dsimp only [Console.step]
    rw [h.catalog]
    exact h.changeCatalog _ _
  | databaseNamed | schemaNamed =>
    dsimp only [Console.step]
    rw [h.catalog]
    exact ⟨rfl, h⟩
  | insert p oid rows => exact h.stepInsert p oid rows
  | connect link p => exact h.stepConnect link p
  | disconnect link => exact h.stepDisconnect link
  | viewRelation link oid =>
    refine h.withLink link fun k => ?_
    rw [h.relation]
    exact ⟨rfl, h⟩
  | viewTrigger link tableOid oid =>
    refine h.withLink link fun k => ?_
    rw [h.trigger]
    exact ⟨rfl, h⟩
  | query link q batchSize =>
    refine h.withLink link fun k => ?_
    rw [h.stream]
    exact ⟨rfl, h⟩
  | execute link statements => exact h.withLink link fun k => h.stepExecute k statements
  | openSession other request => exact h.stepOpen (of_decide_eq_false ha) request
  | openFresh random request =>
    simp only [addresses, decide_eq_false_iff_not] at ha
    exact h.stepOpen ha request
  | openPair other request turns => exact h.stepOpenPair (of_decide_eq_false ha) request turns
  | start other => exact h.changeView _ (h.start (of_decide_eq_false ha))
  | poll other => exact h.changeView _ (h.poll (of_decide_eq_false ha))
  | fetch other => exact h.changeView _ (h.fetch (of_decide_eq_false ha))
  | close other =>
    obtain ⟨closed, c₁, c₂, hx, hy, h₁⟩ := (h.close (of_decide_eq_false ha)).eq_and
    simp only [Console.step, hx, hy]
    exact ⟨rfl, h₁⟩
  | hasSession other =>
    dsimp only [Console.step]
    rw [h.isRegistered (of_decide_eq_false ha)]
    exact ⟨rfl, h⟩
  | settle => exact ⟨rfl, h.settle⟩
  | hold other name => exact h.stepHold (of_decide_eq_false ha) name
  | heldState name => exact h.withHeld ha fun _ _ _ => ⟨rfl, h⟩
  | startHeld name size =>
    exact h.withHeld ha fun hd s hi => h.changeView _ (h.startHeld hi s size)
  | pollHeld name size => exact h.withHeld ha fun hd s hi => ⟨rfl, h.putHeld hi _⟩
  | fetchHeld name size =>
    exact h.withHeld ha fun hd s hi => h.changeView _ (h.fetchHeld hi s size)
  | closeHeld name => exact h.withHeld ha fun hd s hi => ⟨rfl, (h.putHeld hi _).release _ _⟩
  | setFaults faults => exact ⟨rfl, h.withFaults faults⟩
  | serve r =>
    obtain ⟨response, c₁, c₂, hx, hy, h₁⟩ := (agree_serve h ha (hh r rfl)).eq_and
    simp only [Console.step, hx, hy]
    exact ⟨rfl, h₁⟩
  | closeAll | closeIdle | sweep => cases hs

theorem alike_step (h : Beside id c c') {step : Step} (ha : c.addresses id step = false)
    (hs : step.sweeps = false) : (c.step step).1.Alike (c'.step step).1 ∧
      Beside id (c.step step).2 (c'.step step).2 := by
  by_cases hh : ∃ r, step = .serve r ∧ r.route? = some .health
  · obtain ⟨r, rfl, hr⟩ := hh
    have he (c : Console) : c.step (.serve r) = (.response
        (if r.method = "HEAD" then c.respondHealth.headOnly else c.respondHealth), c) := by
      dsimp only [Console.step]
      rw [serve_of_route hr]
      rfl
    rw [he, he]
    refine ⟨?_, h⟩
    split
    · exact .same _
    · exact .health _ _
  · obtain ⟨answer, c₁, c₂, hx, hy, h₁⟩ :=
      (agree_step h ha hs fun r he hr => hh ⟨r, he, hr⟩).eq_and
    rw [hx, hy]
    exact ⟨.same answer, h₁⟩

theorem alike_run (h : Beside id c c') (steps : List Step)
    (hs : ∀ step ∈ steps, step.sweeps = false) :
    List.Forall₂ Answer.Alike ((c.others id steps).map (·.2))
        (c'.answers ((c.others id steps).map (·.1))) ∧
      Beside id (c.run steps) (c'.run ((c.others id steps).map (·.1))) := by
  -- A step about the id is taken by `c` alone, any other by both; they stay beside each other.
  induction steps generalizing c c' with
  | nil => exact ⟨.nil, h⟩
  | cons step rest ih =>
    have hrest : ∀ step ∈ rest, step.sweeps = false := fun step hm => hs step (.tail _ hm)
    cases ha : c.addresses id step with
    | true =>
      simp only [others, ha, if_true]
      exact ih ((beside_step ha).trans h) hrest
    | false =>
      obtain ⟨halike, h₁⟩ := alike_step h ha (hs step (.head _))
      obtain ⟨hanswers, hrun⟩ := ih h₁ hrest
      simp only [others, ha, Bool.false_eq_true, if_false, List.map_cons, answers]
      exact ⟨.cons halike hanswers, hrun⟩

/-- What is done with the sessions under an id shows nowhere else: what else is done in a run has
the same answers without it. Sessions leave the catalog alone, and it does not matter in which order
their queries are carried out. -/
theorem sessions_isolated (c : Console) :
    (∀ id steps, (∀ step ∈ steps, step.sweeps = false) →
      List.Forall₂ Answer.Alike ((c.others id steps).map (·.2))
          (c.answers ((c.others id steps).map (·.1))) ∧
        Beside id (c.run steps) (c.run ((c.others id steps).map (·.1)))) ∧
    (∀ step, step.calls ≠ [] ∨ (∃ id, c.addresses id step = true) →
      (c.step step).2.catalog = c.catalog) ∧
    ∀ order : List Handle, (∀ h s, c.sessionAt h = some s → s.isDue = true → h ∈ order) →
      order.foldl settleAt c = (c.step .settle).2 := by
  refine ⟨fun id steps hs => alike_run (.refl id c) steps hs, fun step hv => ?_,
    fun order ho => settle_eq_foldl order ho⟩
  rcases hv with hv | ⟨id, ha⟩
  · rw [step_of_calls hv]
    exact catalog_eq_of_sessions (sessions_callAll c step.calls)
  · exact (beside_step ha).catalog.symm

def isolatedSteps : List Step :=
  tableSteps ++ [.openSession "x" (tableRequest .allRows), .hold "x" "h",
    .openSession "y" (tableRequest .allRows), .startHeld "h" 1,
    .setFaults { Faults.none with query := some ⟨0, .abort .other⟩ }, .settle,
    .setFaults .none, .start "y", .settle, .poll "y", .closeHeld "h",
    .serve ⟨"GET", "/health", ""⟩]

def twoStarted : List Step :=
  tableSteps ++ [.openSession "x" (tableRequest .allRows),
    .openSession "y" (tableRequest .allRows), .start "x", .start "y"]

theorem sessionAt_twoStarted {h : Handle} {s : Session}
    (hs : ((Console.new .standard 1).run twoStarted).sessionAt h = some s) :
    h = ⟨"x", 0⟩ ∨ h = ⟨"y", 0⟩ := by
  have hkeys : ((Console.new .standard 1).run twoStarted).sessions.keys = ["x", "y"] := by
    decide +kernel
  have hlength : ∀ id ∈ ["x", "y"],
      (((Console.new .standard 1).run twoStarted).lineage id).all.length = 1 := by
    decide +kernel
  have hid := SortedMap.mem_keys.mpr ⟨_, find?_of_sessionAt hs⟩
  rw [hkeys] at hid
  rw [sessionAt_eq] at hs
  obtain ⟨hlt, _⟩ := List.getElem?_eq_some_iff.mp hs
  rw [hlength h.id hid, Nat.lt_one_iff] at hlt
  obtain ⟨id, place⟩ := h
  cases hlt
  simpa using hid

theorem sessions_isolated_aborted :
    ((Console.new .standard 1).others "x" isolatedSteps).length = 9 ∧
    (((Console.new .standard 1).run isolatedSteps).sessionAt ⟨"x", 0⟩).map (·.state.phase) =
      some .failed ∧
    List.Forall₂ Answer.Alike (((Console.new .standard 1).others "x" isolatedSteps).map (·.2))
      ((Console.new .standard 1).answers
        (((Console.new .standard 1).others "x" isolatedSteps).map (·.1))) ∧
    (((Console.new .standard 1).run twoStarted).step (.close "x")).2.catalog =
      ((Console.new .standard 1).run twoStarted).catalog ∧
    [⟨"y", 0⟩, ⟨"x", 0⟩].foldl settleAt ((Console.new .standard 1).run twoStarted) =
      [⟨"x", 0⟩, ⟨"y", 0⟩].foldl settleAt ((Console.new .standard 1).run twoStarted) := by
  have hlength : ((Console.new .standard 1).others "x" isolatedSteps).length = 9 := by
    decide +kernel
  have hfailed : (((Console.new .standard 1).run isolatedSteps).sessionAt ⟨"x", 0⟩).map
      (·.state.phase) = some .failed := by
    decide +kernel
  have hs : ∀ step ∈ isolatedSteps, step.sweeps = false := by
    simp [isolatedSteps, tableSteps, Step.sweeps]
  obtain ⟨hrun, _, _⟩ := sessions_isolated (Console.new .standard 1)
  obtain ⟨_, hcatalog, horder⟩ := sessions_isolated ((Console.new .standard 1).run twoStarted)
  have hxy := horder [⟨"x", 0⟩, ⟨"y", 0⟩] fun h s hs _ => by
    simpa using sessionAt_twoStarted hs
  have hyx := horder [⟨"y", 0⟩, ⟨"x", 0⟩] fun h s hs _ => by
    simpa using (sessionAt_twoStarted hs).symm
  exact ⟨hlength, hfailed, (hrun "x" isolatedSteps hs).1,
    hcatalog _ (.inl (by simp [Step.calls])), hyx.trans hxy.symm⟩

end Console

end DbConsole
