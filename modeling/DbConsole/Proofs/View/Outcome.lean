import DbConsole.Proofs.View.Paging
import DbConsole.Proofs.View.Rest

namespace DbConsole

namespace Outcome

theorem collect_batches (rows : List Row) (batches : List (List Row)) (rest : List StreamEvent) :
    collect rows (batches.map .batch ++ rest) = collect (rows ++ batches.flatten) rest := by
  induction batches generalizing rows with
  | nil => rw [List.map_nil, List.nil_append, List.flatten_nil, List.append_nil]
  | cons more batches ih =>
    rw [List.map_cons, List.cons_append, collect, ih, List.flatten_cons, List.append_assoc]

theorem events_cases (events : List StreamEvent) : ∃ batches : List (List Row),
    events = batches.map .batch ∨
      ∃ event rest, events = batches.map .batch ++ event :: rest ∧ ∀ rows, event ≠ .batch rows := by
  induction events with
  | nil => exact ⟨[], .inl rfl⟩
  | cons event rest ih =>
    cases event with
    | batch rows =>
      obtain ⟨batches, he | ⟨event, rest', he, hn⟩⟩ := ih
      · exact ⟨rows :: batches, .inl (by rw [he]; rfl)⟩
      · exact ⟨rows :: batches, .inr ⟨event, rest', by rw [he]; rfl, hn⟩⟩
    | error | abort | stall => exact ⟨[], .inr ⟨_, rest, rfl, nofun⟩⟩

end Outcome

namespace Session

/-- What a stream makes of a running session. There are all rows if it comes to its end, and none if
an error or a panic comes first, whatever follows it. -/
inductive Comes (s : Session) : List StreamEvent → SessionState → Prop where
  | completed (batches : List (List Row)) (summary : Summary)
    (h : summary.OfRows s.relation batches.flatten) :
    Comes s (batches.map .batch) (.completed summary)
  | failed (batches : List (List Row)) (e : CatalogError) (rest : List StreamEvent)
    (summary : Summary) (h : summary.OfError e.message) :
    Comes s (batches.map .batch ++ .error e :: rest) (.failed summary)
  | aborted (batches : List (List Row)) (text : String) (rest : List StreamEvent)
    (summary : Summary) (h : summary.OfError ("query execution aborted: " ++ text)) :
    Comes s (batches.map .batch ++ .abort (.text text) :: rest) (.failed summary)
  | abortedUnknown (batches : List (List Row)) (rest : List StreamEvent) (summary : Summary)
    (h : summary.OfError "query execution aborted: unknown panic") :
    Comes s (batches.map .batch ++ .abort .other :: rest) (.failed summary)
  | stalled (batches : List (List Row)) (rest : List StreamEvent) :
    Comes s (batches.map .batch ++ .stall :: rest) .running

variable {s : Session} {events : List StreamEvent} {state : SessionState}

theorem Comes.eq (h : s.Comes events state) :
    state = (s.resultState? (.ofEvents events)).getD .running := by
  cases h with
  | completed batches summary h =>
    rw [← List.append_nil (batches.map StreamEvent.batch), Outcome.ofEvents,
      Outcome.collect_batches, Summary.ofRows_iff.mp h]
    rfl
  | failed _ _ _ _ h | aborted _ _ _ _ h | abortedUnknown _ _ _ h =>
    rw [Outcome.ofEvents, Outcome.collect_batches, Summary.ofError_iff.mp h]
    rfl
  | stalled =>
    rw [Outcome.ofEvents, Outcome.collect_batches]
    rfl

theorem Comes.outcome (h : s.Comes events state) :
    s.Comes events ((s.resultState? (.ofEvents events)).getD .running) := by
  rw [← h.eq]
  exact h

theorem comes (s : Session) (events : List StreamEvent) :
    s.Comes events ((s.resultState? (.ofEvents events)).getD .running) := by
  obtain ⟨batches, rfl | ⟨event, rest, rfl, hn⟩⟩ := Outcome.events_cases events
  · exact (Comes.completed batches _ (Summary.ofRows_iff.mpr rfl)).outcome
  · cases event with
    | batch rows => exact (hn rows rfl).elim
    | error e => exact (Comes.failed batches e rest _ (Summary.ofError_iff.mpr rfl)).outcome
    | abort payload => cases payload with
      | text t => exact (Comes.aborted batches t rest _ (Summary.ofError_iff.mpr rfl)).outcome
      | other => exact (Comes.abortedUnknown batches rest _ (Summary.ofError_iff.mpr rfl)).outcome
    | stall => exact (Comes.stalled batches rest).outcome

/-- A failed session has its error to show and no rows, not even such as it had received. -/
structure ShowsOnlyError (s : Session) (summary : Summary) : Prop where
  rows : summary.rows = []
  columns : summary.columns = []
  primaryKey : summary.primaryKey = []
  poll : ∀ size, s.poll size = (⟨.failed summary, none⟩, s)
  fetch : ∀ size, s.fetch size = .error (.invalidState s.id .failed .completed)

theorem Comes.showsOnlyError {summary : Summary} {t : Session} (h : s.Comes events t.state)
    (ht : t.state = .failed summary) : t.ShowsOnlyError summary := by
  have hlook := look_of_not_completed (s := t) (by rw [ht]; simp [SessionState.phase])
  rw [ht] at h hlook
  have herror : ∃ message, summary.OfError message := by
    cases h with
    | failed _ _ _ _ h | aborted _ _ _ _ h | abortedUnknown _ _ _ h => exact ⟨_, h⟩
  obtain ⟨message, herror⟩ := herror
  exact ⟨herror.rows, herror.columns, herror.primaryKey, fun size => (hlook size).1,
    fun size => (hlook size).2⟩

theorem state_settle {stream : Connection → Nat → List StreamEvent} {k : Connection} {size : Nat}
    (hr : s.run = some ⟨k, size, false⟩) (hs : s.state = .running) :
    (s.settle stream).state = (s.resultState? (.ofEvents (stream k size))).getD .running := by
  unfold settle
  rw [hr]
  dsimp only
  cases s.resultState? (.ofEvents (stream k size)) with
  | none => exact hs
  | some state => rfl

theorem atRest_settle (hs : s.state.phase ≠ .initialized)
    (stream : Connection → Nat → List StreamEvent) : (s.settle stream).AtRest := by
  refine ⟨isDue_settle s stream, .inl ?_⟩
  have hfollows := effect_settle s stream
  generalize s.settle stream = t at hfollows
  cases hfollows with
  | ended state hd hf =>
    intro hp
    rw [hp] at hf
    cases hf
  | started k size hi => exact (hs (by rw [hi]; rfl)).elim
  | stay | looked | closed | stalled => exact hs

/-- The stream alone decides what the query comes to, and nothing that is done to the session later
changes that. -/
theorem comes_after (stream : Connection → Nat → List StreamEvent) {k : Connection} {size : Nat}
    (hr : s.run = some ⟨k, size, false⟩) (hs : s.state = .running) (deeds : List Deed) :
    s.Comes (stream k size) ((s.settle stream).after deeds).state := by
  have hrest : (s.settle stream).AtRest := atRest_settle (by rw [hs]; simp [SessionState.phase]) _
  rw [(hrest.after deeds).2, state_settle hr hs]
  exact s.comes _

end Session

end DbConsole
