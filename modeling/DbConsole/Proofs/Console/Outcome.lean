import DbConsole.Proofs.Console.Lifecycle
import DbConsole.Proofs.View.Outcome

namespace DbConsole

namespace Console

variable {catalog : Catalog} {pageSize : Nat} {steps : List Step} {h : Handle} {s : Session}

theorem connected_run (catalog : Catalog) (pageSize : Nat) (steps : List Step)
    (hs : ((Console.new catalog pageSize).run steps).sessionAt h = some s) : s.Connected :=
  forall_opened_run Session.connected_invariant catalog pageSize steps s (mem_opened.mpr ⟨h, hs⟩)

/-- A started session that is not closed has a query. What comes of it is what its stream says, all
rows or none, for good; and it stays running if its stream has stalled. -/
theorem settle_outcome (catalog : Catalog) (pageSize : Nat) (steps : List Step) (h : Handle)
    (s : Session) (hs : ((Console.new catalog pageSize).run steps).sessionAt h = some s)
    (hr : s.state = .running) (hc : s.cancelled = false) :
    ∃ run : Run, s.run = some run ∧
      (run.stalled = true → ∀ deeds, (s.after deeds).state = .running) ∧
      (run.stalled = false → ∀ (stream : Connection → Nat → List StreamEvent) (deeds : List Deed),
        s.Comes (stream run.connection run.batchSize) ((s.settle stream).after deeds).state ∧
        ∀ summary, ((s.settle stream).after deeds).state = .failed summary →
          ((s.settle stream).after deeds).ShowsOnlyError summary) ∧
      ∀ more, ∃ deeds,
        ((Console.new catalog pageSize).run (steps ++ .settle :: more)).sessionAt h =
          some ((s.settle fun k size => ((Console.new catalog pageSize).run steps).stream k s.query
            size).after deeds) := by
  have hconnected := connected_run catalog pageSize steps hs
  have hsome : s.run.isSome := by
    rw [hconnected.run, hr, hc]
    rfl
  have hphase : s.state.phase ≠ .initialized := by
    rw [hr]
    simp [SessionState.phase]
  obtain ⟨⟨k, size, stalled⟩, hrun⟩ := Option.isSome_iff_exists.mp hsome
  refine ⟨_, hrun, ?_, ?_, ?_⟩
  · rintro rfl deeds
    have hrest : s.AtRest := ⟨by simp [Session.isDue, hrun], .inl hphase⟩
    rw [(hrest.after deeds).2, hr]
  · rintro rfl stream deeds
    have hcomes := Session.comes_after stream hrun hr deeds
    exact ⟨hcomes, fun summary => hcomes.showsOnlyError⟩
  · intro more
    refine ⟨((Console.new catalog pageSize).run steps).settle.history h more, ?_⟩
    have hsettle : ((Console.new catalog pageSize).run steps).settle.sessionAt h =
        some (s.settle fun k size =>
          ((Console.new catalog pageSize).run steps).stream k s.query size) := by
      rw [sessionAt_settle, hs, Option.map_some]
    rw [run_append]
    exact sessionAt_run hsettle more

/-- The query of a started session hands out three rows, or breaks down after a batch. -/
theorem settle_outcome_aborted :
    ∃ s : Session, ((Console.new .standard 1).run startingSteps).sessionAt ⟨"x", 0⟩ = some s ∧
      (∀ deeds, ∃ summary, ((s.settle fun _ _ => [.batch [[.nat 1], [.nat 2]], .batch [],
          .batch [[.nat 3]]]).after deeds).state = .completed summary ∧
        summary.rows = [[.nat 1], [.nat 2], [.nat 3]] ∧ summary.status = "SELECT 3") ∧
      ∀ deeds, ∃ summary, ((s.settle fun _ _ => [.batch [[.null]], .abort .other,
          .batch []]).after deeds).state = .failed summary ∧
        summary.status = "query execution aborted: unknown panic" ∧ summary.rows = [] ∧
        summary.columns = [] := by
  have hany : (((Console.new .standard 1).run startingSteps).sessionAt ⟨"x", 0⟩).any (fun s =>
      s.state.phase = .running && !s.cancelled && s.run.any (!·.stalled)) = true := by
    decide +kernel
  obtain ⟨s, hs, hp⟩ := (Option.any_eq_true _ _).mp hany
  simp only [Bool.and_eq_true, Bool.not_eq_true', decide_eq_true_eq] at hp
  obtain ⟨⟨hphase, hc⟩, hdue⟩ := hp
  have hr : s.state = .running := SessionState.eq_running hphase
  obtain ⟨run, hrun, _, hstream, _⟩ :=
    settle_outcome .standard 1 startingSteps ⟨"x", 0⟩ s hs hr hc
  have hstalled : run.stalled = false := by simpa [hrun] using hdue
  refine ⟨s, hs, fun deeds => ?_, fun deeds => ?_⟩
  · obtain ⟨hcomes, _⟩ := hstream hstalled
      (fun _ _ => [.batch [[.nat 1], [.nat 2]], .batch [], .batch [[.nat 3]]]) deeds
    exact ⟨_, hcomes.eq, rfl, rfl⟩
  · obtain ⟨hcomes, hfailed⟩ :=
      hstream hstalled (fun _ _ => [.batch [[.null]], .abort .other, .batch []]) deeds
    have hshows := hfailed _ hcomes.eq
    exact ⟨_, hcomes.eq, rfl, hshows.rows, hshows.columns⟩

end Console

end DbConsole
