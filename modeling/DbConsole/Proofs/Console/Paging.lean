import DbConsole.Proofs.Console.Sessions
import DbConsole.Proofs.View.Paging
import Mathlib

namespace DbConsole

namespace Console

/-- Every session of a console has had a life. In any life, the pages shown of a completed session
are exact and leave no row out, and of a session that is not completed none are shown. -/
theorem pages_exact (catalog : Catalog) (pageSize : Nat) (steps : List Step) :
    (∀ s ∈ ((Console.new catalog pageSize).run steps).opened, ∃ shown, s.Lived shown) ∧
      ∀ (s : Session) (shown : List Showing), s.Lived shown →
        (∀ summary, s.state = .completed summary → Paging summary.rows s.cursor shown ∧
          ∀ size, (∃ page, (s.poll size).1.page = some page ∧
              ((s.poll size).2.poll size).1.page = some page) ∧
            ∃ page s', s.fetch size = .ok (page, s')) ∧
        (s.state.phase ≠ .completed → ∀ size, s.poll size = (⟨s.state, none⟩, s) ∧
          s.fetch size = .error (.invalidState s.id s.state.phase .completed)) := by
  refine ⟨forall_opened_run Session.lived_invariant catalog pageSize steps, ?_⟩
  intro s shown h
  refine ⟨fun summary hst => ⟨?_, fun size => ⟨?_, ?_⟩⟩, Session.look_of_not_completed⟩
  · have hp := h.paged
    unfold Session.Paged at hp
    rw [hst] at hp
    exact hp
  · exact Session.poll_poll ⟨summary, hst⟩ size
  · unfold Session.fetch
    rw [hst]
    exact ⟨_, _, rfl⟩

theorem step_startHeld {c : Console} {name sql : String} {h : Handle} {s s' : Session} {size : Nat}
    (hh : c.held? name = some (h, s)) (hs : s.start size = .ok (sql, s')) :
    (c.step (.startHeld name size)).2 = c.putHeld h s' := by
  simp only [step, withHeld, hh, startHeld, hs]
  rfl

def sample : Session :=
  .new "x" ⟨16386, 16385, ⟨"public", "t"⟩, .table, [⟨"id", "text", true⟩], [], none, .empty⟩
    ⟨16386, ⟨"public", "t"⟩, [], [], none⟩ ⟨⟨1, 1, 16384⟩⟩

def openingSteps : List Step :=
  [.createRelation ⟨1, 1, 16384⟩ ⟨"public", "t", .table, [⟨"id", "text", true⟩], []⟩,
    .insert ⟨1, 1, 16384⟩ 16386 [[.string "a"], [.string "b"]],
    .openSession "x" ⟨⟨⟨1, 1, 16384⟩, 16386, .table⟩, .allRows, []⟩,
    .openSession "y" ⟨⟨⟨1, 1, 16384⟩, 16386, .table⟩, .allRows, []⟩, .hold "x" "v"]

def lookingSteps : List Step :=
  [.settle, .pollHeld "v" 0, .fetchHeld "v" 1, .fetchHeld "v" (2 ^ 64 - 1)]

theorem opened_sample :
    ((Console.new .standard 1).run (openingSteps ++ .startHeld "v" 0 :: lookingSteps)).opened.map
      (fun s => (s.state.phase, s.cursor, s.state.summary?.map (·.rows))) =
    [(.completed, 2, some [[.string "a"], [.string "b"]]), (.initialized, 0, none)] := by
  have hh : ((Console.new .standard 1).run openingSteps).held? "v" = some (⟨"x", 0⟩, sample) := by
    cbv
  have hs : sample.start 0 = .ok (sample.query.sql, { sample with
      state := .running, slot := none, run := some ⟨⟨⟨1, 1, 16384⟩⟩, 0, false⟩ }) := rfl
  have hr : (Console.new .standard 1).run (openingSteps ++ .startHeld "v" 0 :: lookingSteps) =
      (((Console.new .standard 1).run openingSteps).step (.startHeld "v" 0)).2.run
        lookingSteps := by
    rw [run_append]
    rfl
  rw [hr, step_startHeld hh hs]
  cbv

/-- A view that was polled once and fetched twice, and one that was not started. -/
theorem pages_exact_sample : ∃ s s' : Session, ∃ shown : List Showing, s.Lived shown ∧
    Showing.handedOut shown = [[.string "a"], [.string "b"]] ∧
    (∃ page, (s.poll 0).1.page = some page ∧ ((s.poll 0).2.poll 0).1.page = some page) ∧
    s'.poll 3 = (⟨.initialized, none⟩, s') := by
  obtain ⟨s, rest, ho, hs, hrest⟩ := List.map_eq_cons_iff.mp opened_sample
  obtain ⟨s', rest', rfl, hs', _⟩ := List.map_eq_cons_iff.mp hrest
  obtain ⟨hlived, h⟩ :=
    pages_exact .standard 1 (openingSteps ++ .startHeld "v" 0 :: lookingSteps)
  rw [ho] at hlived
  obtain ⟨shown, hl⟩ := hlived s (.head _)
  obtain ⟨shown', hl'⟩ := hlived s' (.tail _ (.head _))
  simp only [Prod.mk.injEq] at hs hs'
  obtain ⟨hp, hc, hr⟩ := hs
  cases hst : s.state with
  | completed summary =>
    obtain ⟨hpaging, hlook⟩ := (h s shown hl).1 summary hst
    have hrows : summary.rows = [[.string "a"], [.string "b"]] := by
      simpa [hst, SessionState.summary?] using hr
    refine ⟨s, s', shown, hl, ?_, (hlook 0).1, ?_⟩
    · rw [hpaging.lossless, hc, hrows]
      rfl
    · have hn : s'.state.phase ≠ .completed := by
        rw [hs'.1]
        decide
      have hi : s'.state = .initialized := by
        cases hst' : s'.state <;> simp [hst', SessionState.phase] at hs' ⊢
      rw [((h s' shown' hl').2 hn 3).1, hi]
  | initialized | running | failed => simp [hst, SessionState.phase] at hp

end Console

end DbConsole
