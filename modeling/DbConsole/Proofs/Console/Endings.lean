import DbConsole.Proofs.Console.Catalog
import DbConsole.Proofs.Console.Sessions
import DbConsole.Proofs.View.Ending
import Mathlib

namespace DbConsole

/-- Faults that strike nothing. Opening a connection may still let others go first. -/
structure Faults.Harmless (f : Faults) : Prop where
  connect : f.connect = .none
  relation : f.relation = .none
  trigger : f.trigger = .none
  triggerAgain : f.triggerAgain = .none
  execute : f.execute = .none
  query : f.query = .none

instance (f : Faults) : Decidable f.Harmless :=
  decidable_of_iff (f.connect.isNone ∧ f.relation.isNone ∧ f.trigger.isNone ∧
    f.triggerAgain.isNone ∧ f.execute.isNone ∧ f.query.isNone) <| by
    simp only [Option.isNone_iff_eq_none]
    exact ⟨fun ⟨hc, hr, ht, ha, hx, hq⟩ => ⟨hc, hr, ht, ha, hx, hq⟩,
      fun h => ⟨h.connect, h.relation, h.trigger, h.triggerAgain, h.execute, h.query⟩⟩

namespace Console

variable {c : Console} {h : Handle} {s s' : Session}

theorem ofEvents_stream (hf : c.faults.Harmless) (k : Connection) (q : Select) (batchSize : Nat) :
    Outcome.ofEvents (c.stream k q batchSize) = .ofResult (c.catalog.select k.database q) := by
  unfold stream
  rw [hf.query]
  exact c.catalog.ofEvents_stream k.database q batchSize

/-- The first of the steps led to no session under a handle, and the next one opened it. -/
def OpenedAfter (c : Console) (earlier steps : List Step) (h : Handle) : Prop :=
  (c.run earlier).sessionAt h = none ∧
    ∃ step, earlier ++ [step] <+: steps ∧ ((c.run (earlier ++ [step])).sessionAt h).isSome

theorem OpenedAfter.mono {earlier steps more : List Step} (ho : c.OpenedAfter earlier steps h) :
    c.OpenedAfter earlier (steps ++ more) h := by
  obtain ⟨hn, step, hp, hs⟩ := ho
  exact ⟨hn, step, hp.trans (List.prefix_append steps more), hs⟩

theorem openedOn_changes (hf : c.faults.Harmless) {catalog : Catalog} {request : ViewRequest}
    (ho : s.OpenedOn catalog request) (hc : c.Changes s s') : s'.OpenedOn catalog request := by
  cases hc with
  | act _ ha => exact Session.openedOn_acts ho ha
  | close => exact Session.openedOn_close ho
  | settle =>
    refine Session.openedOn_settle ho ?_
    intro k batchSize
    exact ⟨_, ofEvents_stream hf k s.query batchSize⟩

theorem openedOn_opens {id : String} (ho : c.Opens id s) :
    ∃ request, s.OpenedOn c.catalog request := by
  obtain ⟨request, r, q, hp⟩ := ho
  exact ⟨request, hp, fun k hk => (Option.some.inj hk).symm, nofun⟩

/-- Without faults, every session was opened by one of the steps, and no mishap has come to it. -/
theorem openedOn_run (hc : c.faults.Harmless) (hn : ∀ h, c.sessionAt h = none)
    (steps : List Step) (hf : ∀ f, .setFaults f ∈ steps → f.Harmless) :
    (c.run steps).faults.Harmless ∧ ∀ h s, (c.run steps).sessionAt h = some s →
      ∃ request earlier, c.OpenedAfter earlier steps h ∧
        s.OpenedOn (c.run earlier).catalog request := by
  -- From the end of the run: `earlier` is what came before the step that first filled the handle.
  induction steps using List.reverseRecOn with
  | nil =>
    refine ⟨hc, fun h s hs => ?_⟩
    cases (hn h).symm.trans hs
  | append_singleton steps step ih =>
    obtain ⟨hh, hall⟩ := ih fun f hm => hf f (List.mem_append_left _ hm)
    have hrun : c.run (steps ++ [step]) = ((c.run steps).step step).2 := run_append c steps [step]
    by_cases hset : ∃ f, step = .setFaults f
    · obtain ⟨f, rfl⟩ := hset
      rw [hrun]
      refine ⟨hf f (by simp), fun h s hs => ?_⟩
      obtain ⟨request, earlier, ha, ho⟩ := hall h s hs
      exact ⟨request, earlier, ha.mono, ho⟩
    · have hm := moves_step (c.run steps) step fun f he => hset ⟨f, he⟩
      rw [← hrun] at hm
      have hfaults := faults_eq_of_moves hm
      refine ⟨hfaults ▸ hh, fun h s hs => ?_⟩
      obtain ⟨hold, hnew⟩ := evolves_of_moves hm h
      cases hx : (c.run steps).sessionAt h with
      | none =>
        obtain ⟨s₀, ho, he⟩ := hnew hx s hs
        obtain ⟨request, ho⟩ := openedOn_opens ho
        refine ⟨request, steps, ⟨hx, step, List.prefix_refl _, ?_⟩, ?_⟩
        · rw [hs]
          rfl
        · exact evolves_preserves (openedOn_changes hh) ho he
      | some s₀ =>
        obtain ⟨request, earlier, ha, ho⟩ := hall h s₀ hx
        obtain ⟨s₁, hs₁, he⟩ := hold s₀ hx
        cases hs₁.symm.trans hs
        exact ⟨request, earlier, ha.mono, evolves_preserves (openedOn_changes hh) ho he⟩

theorem leads_of_openedAfter {earlier steps : List Step} (hc : c.catalog.WellFormed)
    (ho : c.OpenedAfter earlier steps h) (hl : (c.run steps).catalog.nextOid < UInt32.size) :
    (c.run earlier).catalog.WellFormed ∧
      (c.run earlier).catalog.Leads (c.run steps).catalog := by
  obtain ⟨_, step, hp, _⟩ := ho
  obtain ⟨rest, rfl⟩ := (List.prefix_append earlier [step]).trans hp
  rw [run_append] at hl ⊢
  have hw := (catalog_run hc earlier (Nat.lt_of_le_of_lt (nextOid_le_run _ rest) hl)).1
  exact ⟨hw, (catalog_run hw rest hl).2⟩

theorem step_setAvailable (c : Console) (g server : UInt32) (available : Bool) :
    (c.step (.setAvailable g server available)).2 = c ∨
      (c.step (.setAvailable g server available)).2 = { c with
        catalog := c.catalog.modifyServer g server fun server => { server with available } } := by
  change (c.alterCatalog (c.catalog.setAvailable g server available)).2 = c ∨
    (c.alterCatalog (c.catalog.setAvailable g server available)).2 = _
  unfold Catalog.setAvailable
  cases c.catalog.server g server with
  | error e => exact .inl rfl
  | ok _ => exact .inr rfl

theorem settle_setAvailable (c : Console) (g server : UInt32) (available : Bool) (h : Handle) :
    (c.step (.setAvailable g server available)).2.settle.sessionAt h = c.settle.sessionAt h := by
  rcases step_setAvailable c g server available with he | he
  · rw [he]
  · rw [he, sessionAt_settle, sessionAt_settle]
    refine congrArg (fun f => (c.sessionAt h).map f) (funext fun s => ?_)
    refine congrArg s.settle (funext fun k => funext fun batchSize => ?_)
    unfold stream Catalog.stream
    rw [Catalog.select_setAvailable]

theorem mem_of_stored {catalog : Catalog} {p : DatabasePath} {oid : Oid} {db : Database}
    {stored : StoredRelation} {contents : List (RelationKind × List Row)}
    (hc : (catalog.database p).map (·.relations.values.map fun r => (r.relation.kind, r.rows)) =
      .ok contents)
    (hd : catalog.database p = .ok db) (hr : db.relation oid = .ok stored) :
    (stored.relation.kind, stored.rows) ∈ contents := by
  rw [hd] at hc
  cases hc
  exact List.mem_map_of_mem (SortedMap.mem_values.mpr ⟨_, Database.relation_eq_ok.mp hr⟩)

/-- Without faults, a started session that is not closed ends when queries are carried out, in one
of the ways there are, whatever the batch size and whichever servers accept connections. -/
theorem settle_ends (start : Catalog) (hs : start = .empty ∨ start = .standard) (pageSize : Nat)
    (steps : List Step) (hf : ∀ f, .setFaults f ∈ steps → f.Harmless)
    (hl : ((Console.new start pageSize).run steps).catalog.nextOid < UInt32.size)
    (h : Handle) (s : Session)
    (hh : ((Console.new start pageSize).run steps).sessionAt h = some s)
    (hr : s.state = .running) (hc : s.cancelled = false) :
    ∃ (request : ViewRequest) (earlier : List Step) (result : Except CatalogError (List Row))
      (s' : Session),
      (Console.new start pageSize).OpenedAfter earlier steps h ∧
      ((Console.new start pageSize).run earlier).catalog.relation request.target.database
        request.target.oid = .ok s.relation ∧
      request.prepare (((Console.new start pageSize).run earlier).catalog.relation
        request.target.database request.target.oid) = .ok (s.relation, s.query) ∧
      (∃ size, s.run = some ⟨⟨request.target.database⟩, size, false⟩) ∧
      s.Ends ((Console.new start pageSize).run steps).catalog request.target.database
        request.target.oid result ∧
      s.Ended result s' ∧
      ((Console.new start pageSize).run (steps ++ [.settle])).sessionAt h = some s' ∧
      (∀ size, { s with run := some ⟨⟨request.target.database⟩, size, false⟩ }.settle
        (fun k size => ((Console.new start pageSize).run steps).stream k s.query size) = s') ∧
      ∀ g server available, ((Console.new start pageSize).run
        (steps ++ [.setAvailable g server available, .settle])).sessionAt h = some s' := by
  have hstart : (Console.new start pageSize).catalog.WellFormed := wellFormed_start hs
  have hfaults : (Console.new start pageSize).faults.Harmless := ⟨rfl, rfl, rfl, rfl, rfl, rfl⟩
  obtain ⟨hharmless, hopened⟩ := openedOn_run hfaults (sessionAt_new start pageSize) steps hf
  obtain ⟨request, earlier, hafter, ho⟩ := hopened h s hh
  obtain ⟨hw, hlead⟩ := leads_of_openedAfter hstart hafter hl
  have hends := Session.ends_select hw hlead ho.prepared
  have hconnected := forall_opened_run Session.connected_invariant start pageSize steps s
    (mem_opened.mpr ⟨h, hh⟩)
  have hsome : s.run.isSome := by
    rw [hconnected.run, hr, hc]
    rfl
  obtain ⟨run, hrun⟩ := Option.isSome_iff_exists.mp hsome
  rw [ho.run run hrun] at hrun
  have hstream := ofEvents_stream hharmless ⟨request.target.database⟩ s.query
  obtain ⟨s', hended, hsettle⟩ := s.settle_of_result
    (((Console.new start pageSize).run steps).catalog.select request.target.database s.query)
  have hsize : ∀ size, { s with run := some ⟨⟨request.target.database⟩, size, false⟩ }.settle
      (fun k size => ((Console.new start pageSize).run steps).stream k s.query size) = s' :=
    fun size => hsettle ⟨_, size, false⟩ _ rfl (hstream size)
  have hat : ((Console.new start pageSize).run steps).settle.sessionAt h = some s' := by
    rw [sessionAt_settle, hh, Option.map_some, ← hsize run.batchSize, ← hrun]
  obtain ⟨hrelation, _⟩ := ViewRequest.prepare_eq_ok.mp ho.prepared
  refine ⟨request, earlier, _, s', hafter, hrelation, ho.prepared, ⟨run.batchSize, hrun⟩, hends,
    hended, ?_, hsize, ?_⟩
  · rw [run_append]
    exact hat
  · intro g server available
    rw [run_append]
    exact (settle_setAvailable _ g server available h).trans hat

/-- A view is started, the server then lets nobody in, and the table gets a row. -/
def startedSteps : List Step :=
  [.createRelation ⟨1, 1, 16384⟩ ⟨"public", "t", .table, [⟨"id", "text", true⟩], ["id"]⟩,
    .openSession "x" ⟨⟨⟨1, 1, 16384⟩, 16386, .table⟩, .lastRows, []⟩, .start "x",
    .setAvailable 1 1 false, .insert ⟨1, 1, 16384⟩ 16386 [[.string "a"]]]

def startedSession : Session where
  id := "x"
  relation := ⟨16386, 16385, ⟨"public", "t"⟩, .table, [⟨"id", "text", true⟩], ["id"], none, .empty⟩
  query := ⟨16386, ⟨"public", "t"⟩, [], [⟨"id", true⟩], some 100⟩
  state := .running
  slot := none
  run := some ⟨⟨⟨1, 1, 16384⟩⟩, 1, false⟩
  cancelled := false
  cursor := 0

theorem settle_ends_started : ∃ (s' : Session) (summary : Summary),
    ((Console.new .standard 1).run (startedSteps ++ [.settle])).sessionAt ⟨"x", 0⟩ = some s' ∧
    s'.state = .completed summary ∧ summary.rows = [[.string "a"]] ∧
    summary.status = "SELECT 1" ∧ summary.columns = [⟨"id", "text", true, true⟩] ∧
    summary.primaryKey = ["id"] := by
  have hf : ∀ f, .setFaults f ∈ startedSteps → f.Harmless := by
    intro f hm
    simp [startedSteps] at hm
  have hl : ((Console.new .standard 1).run startedSteps).catalog.nextOid < UInt32.size := by
    decide +kernel
  have hh : ((Console.new .standard 1).run startedSteps).sessionAt ⟨"x", 0⟩ =
      some startedSession := by
    cbv
  have hstored : (((Console.new .standard 1).run startedSteps).catalog.database
      ⟨1, 1, 16384⟩).map (·.relations.values.map fun r => (r.relation.kind, r.rows)) =
        .ok [(.table, [[.string "a"]])] := by
    cbv
  obtain ⟨request, earlier, result, s', _, _, _, ⟨size, hrun⟩, hends, hended, hat, _, _⟩ :=
    settle_ends .standard (.inr rfl) 1 startedSteps hf hl ⟨"x", 0⟩ startedSession hh rfl rfl
  have hp : request.target.database = ⟨1, 1, 16384⟩ := by
    simp only [startedSession, Option.some.injEq, Run.mk.injEq, Connection.mk.injEq] at hrun
    exact hrun.1.symm
  rw [hp] at hends
  cases hends with
  | rows db stored sorted hd hr hc hu hs =>
    have hm := mem_of_stored hstored hd hr
    rw [List.mem_singleton, Prod.mk.injEq] at hm
    have hsorted : sorted = [[.string "a"]] := by
      have hperm := hs.perm
      rw [hm.2] at hperm
      exact List.perm_singleton.mp hperm
    cases hended with
    | completed _ summary h =>
      have hsummary := Summary.ofRows_iff.mp h
      rw [hsorted] at hsummary
      exact ⟨_, summary, hat, rfl, by rw [hsummary]; rfl, by rw [hsummary]; rfl,
        by rw [hsummary]; rfl, by rw [hsummary]; rfl⟩
  | notPopulated db stored hd hr hk =>
    have hm := mem_of_stored hstored hd hr
    simp [hk] at hm
  | serverNotFound hd | databaseNotFound hd => simp [hd, Except.map] at hstored

end Console

end DbConsole
