import DbConsole.Proofs.Console.Sessions
import DbConsole.Proofs.Console.Starts
import DbConsole.Proofs.View.States

namespace DbConsole

namespace Console

variable {c : Console} {h : Handle} {s : Session} {id : String} {step : Step}

def stateAt (c : Console) (h : Handle) : Option SessionState := (c.sessionAt h).map (·.state)

/-- The states of the session that a handle leads to, before the first of some steps and after each
of them, as far as it is there. -/
def states (c : Console) (h : Handle) : List Step → List SessionState
  | [] => (c.stateAt h).toList
  | step :: rest => (c.stateAt h).toList ++ (c.step step).2.states h rest

theorem follows_step (hc : ∀ s ∈ c.opened, s.Connected) (hs : c.sessionAt h = some s)
    (step : Step) : ∃ s', (c.step step).2.sessionAt h = some s' ∧ s.state.Follows s'.state := by
  refine ⟨_, sessionAt_step hs step, ?_⟩
  have hconnected := hc s (mem_opened.mpr ⟨h, hs⟩)
  rcases step.calls_cases with he | ⟨a, he⟩ | he
  · rw [he]
    exact .stay _
  · rw [he, deeds, deeds, List.append_nil]
    cases c.deed? h a with
    | none => exact .stay _
    | some d => exact Session.follows_of_effect hconnected (s.effect_undergo d)
  · rw [he]
    simp only [deeds, deed?, List.append_nil]
    -- Closing leaves the state alone, so that only the second call can change it.
    split
    · change s.close.state.Follows _
      exact Session.follows_of_effect (Session.connected_invariant.closed hconnected)
        (s.close.effect_undergo (.settle c.closeAll.stream))
    · exact Session.follows_of_effect hconnected (s.effect_undergo (.settle c.closeAll.stream))

theorem connected_step (hc : ∀ s ∈ c.opened, s.Connected) (step : Step) :
    ∀ s ∈ (c.step step).2.opened, s.Connected := by
  have hr := run_preserves (P := fun c => ∀ s ∈ c.opened, s.Connected) (c := c) (fun _ h => h)
    (invariant_of_moves Session.connected_invariant) [step] hc
  exact hr

theorem chain_states (hc : ∀ s ∈ c.opened, s.Connected) (steps : List Step) :
    (c.states h steps).IsChain SessionState.Follows ∧
      ∀ x ∈ (c.states h steps).head?, x = (c.stateAt h).getD .initialized := by
  induction steps generalizing c with
  | nil =>
    unfold states
    cases c.stateAt h with
    | none => exact ⟨.nil, nofun⟩
    | some x => exact ⟨.singleton x, fun y hy => (Option.some.inj hy).symm⟩
  | cons step rest ih =>
    obtain ⟨hchain, hhead⟩ := ih (connected_step hc step)
    rw [states]
    cases hs : c.sessionAt h with
    | none =>
      have hn : c.stateAt h = none := by rw [stateAt, hs, Option.map_none]
      rw [hn]
      refine ⟨hchain, fun x hx => ?_⟩
      rw [hhead x hx, stateAt]
      cases hs' : (c.step step).2.sessionAt h with
      | none => rfl
      | some s' =>
        obtain ⟨id, r, q, k, rfl⟩ := new_of_step hs hs'
        rfl
    | some s =>
      have hx : c.stateAt h = some s.state := by rw [stateAt, hs, Option.map_some]
      rw [hx]
      refine ⟨List.isChain_cons.mpr ⟨fun y hy => ?_, hchain⟩,
        fun y hy => (Option.some.inj hy).symm⟩
      obtain ⟨s', hs', hf⟩ := follows_step hc hs step
      rw [hhead y hy, stateAt, hs', Option.map_some, Option.getD_some]
      exact hf

theorem progresses_states (hc : ∀ s ∈ c.opened, s.Connected) (hn : c.sessionAt h = none)
    (steps : List Step) : SessionState.Progresses (c.states h steps) := by
  obtain ⟨hchain, hhead⟩ := chain_states (h := h) hc steps
  cases hl : c.states h steps with
  | nil => exact ⟨0, 0, 0, .failed default, rfl, by simp, by simp, rfl⟩
  | cons x rest =>
    rw [hl] at hchain hhead
    have hx : x = .initialized := by
      rw [hhead x rfl, stateAt, hn]
      rfl
    subst hx
    exact SessionState.progresses_of_chain hchain

/-- What is reported of a session, to whoever asks for it. -/
structure Reports (c : Console) (h : Handle) (s : Session) : Prop where
  byId : ∀ id, h = c.place id → (c.step (.poll id)).1 = .status (s.poll c.pageSize).1
  held : ∀ name size, c.handles.find? name = some h →
    (c.step (.pollHeld name size)).1 = .status (s.poll size).1
  heldState : ∀ name, c.handles.find? name = some h →
    (c.step (.heldState name)).1 = .text s.state.phase.text
  state : ∀ size, (s.poll size).1.state = s.state
  summary : s.state.summary?.isSome = s.state.phase.isFinal

theorem reports_of_sessionAt (hs : c.sessionAt h = some s) : c.Reports h s where
  byId id hp := by
    have hs' : c.session? id = some s := by rw [← sessionAt_place_eq, ← hp, hs]
    simp only [Console.step, poll_of_some hs']
    rfl
  held name size hn := by
    simp only [Console.step, withHeld, held?_of_some hn hs]
    rfl
  heldState name hn := by simp only [Console.step, withHeld, held?_of_some hn hs]
  state size := by
    unfold Session.poll
    split <;> rfl
  summary := by cases s.state <;> rfl

theorem fails_of_not_initialized (hs : c.sessionAt h = some s)
    (hi : s.state.phase ≠ .initialized) (ha : c.asksStart h step) :
    (c.step step).1.succeeds = false := by
  obtain ⟨size, hstart⟩ := startStep_of_asks ha
  rw [hstart.succeeds, hs, Option.any_some, Session.start_of_not_initialized hi]

/-- In every run, whatever fails in it, a session goes through its states in order, is started once
at most, and has its query carried out once at most, and only if it was started. A start that fails
changes nothing, and once a session has been started, every start of it fails. -/
theorem lifecycle (catalog : Catalog) (pageSize : Nat) (h : Handle) (steps : List Step) :
    SessionState.Progresses ((Console.new catalog pageSize).states h steps) ∧
      (Console.new catalog pageSize).tally (startsAt h) steps ≤ 1 ∧
      (Console.new catalog pageSize).tally (executionsAt h) steps ≤
        (Console.new catalog pageSize).tally (startsAt h) steps ∧
      ∀ c : Console,
        (∀ step, c.asksStart h step → (c.step step).1.succeeds = false → (c.step step).2 = c) ∧
        ∀ s, c.sessionAt h = some s → c.Reports h s ∧ (s.state.phase ≠ .initialized →
          ∀ step, c.asksStart h step → (c.step step).1.succeeds = false) := by
  have hc := forall_opened_run Session.connected_invariant catalog pageSize []
  have hn := sessionAt_new catalog pageSize h
  obtain ⟨hstarts, hruns⟩ := tally_le hn steps
  refine ⟨progresses_states hc hn steps, hstarts, hruns, fun c => ⟨?_, fun s hs => ⟨?_, ?_⟩⟩⟩
  · exact fun step => step_of_failed_start
  · exact reports_of_sessionAt hs
  · exact fun hi step => fails_of_not_initialized hs hi

def startingSteps : List Step :=
  [.createRelation ⟨1, 1, 16384⟩ ⟨"public", "t", .table, [⟨"id", "text", true⟩], []⟩,
    .openSession "x" ⟨⟨⟨1, 1, 16384⟩, 16386, .table⟩, .allRows, []⟩, .hold "x" "v", .start "x"]

/-- A session is started by its id and then, in vain, by the name under which it is held. -/
theorem lifecycle_startingSteps :
    ∃ s, ((Console.new .standard 1).run startingSteps).sessionAt ⟨"x", 0⟩ = some s ∧
      (((Console.new .standard 1).run startingSteps).step (.pollHeld "v" 5)).1 =
        .status (s.poll 5).1 ∧
      (((Console.new .standard 1).run startingSteps).step (.startHeld "v" 5)).2 =
        (Console.new .standard 1).run startingSteps ∧
      (Console.new .standard 1).tally (executionsAt ⟨"x", 0⟩)
        (startingSteps ++ [.startHeld "v" 5, .settle, .settle]) ≤ 1 := by
  have hany : (((Console.new .standard 1).run startingSteps).sessionAt ⟨"x", 0⟩).any
      (·.state.phase = .running) = true := by
    decide +kernel
  have hn : ((Console.new .standard 1).run startingSteps).handles.find? "v" = some ⟨"x", 0⟩ := by
    decide +kernel
  have ha : ((Console.new .standard 1).run startingSteps).asksStart ⟨"x", 0⟩
      (.startHeld "v" 5) = true := by
    decide +kernel
  obtain ⟨s, hs, hp⟩ := (Option.any_eq_true _ _).mp hany
  obtain ⟨_, hstarts, hruns, hall⟩ := lifecycle .standard 1 ⟨"x", 0⟩
    (startingSteps ++ [.startHeld "v" 5, .settle, .settle])
  obtain ⟨hfailed, hsession⟩ := hall ((Console.new .standard 1).run startingSteps)
  obtain ⟨hreports, hfails⟩ := hsession s hs
  have hi : s.state.phase ≠ .initialized := by
    rw [of_decide_eq_true hp]
    decide
  exact ⟨s, hs, hreports.held "v" 5 hn, hfailed _ ha (hfails hi _ ha),
    Nat.le_trans hruns hstarts⟩

end Console

end DbConsole
