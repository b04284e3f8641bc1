import DbConsole.Proofs.View.Session

namespace DbConsole

/-- How a client uses a session. -/
inductive Act where
  | start
  | poll
  | fetch
deriving DecidableEq

/-- What can be done to a session. -/
inductive Deed where
  | act (a : Act) (size : Nat)
  | close
  /-- The query is carried out, if it is due, and connections then stream what is given. -/
  | settle (stream : Connection → Select → Nat → List StreamEvent)

namespace Session

variable {s t : Session}

/-- A start or a fetch that fails changes nothing. -/
def act (s : Session) (size : Nat) : Act → Session
  | .start =>
    match s.start size with
    | .ok (_, s) => s
    | .error _ => s
  | .poll => (s.poll size).2
  | .fetch =>
    match s.fetch size with
    | .ok (_, s) => s
    | .error _ => s

def undergo (s : Session) : Deed → Session
  | .act a size => s.act size a
  | .close => s.close
  | .settle stream => s.settle fun k size => stream k s.query size

def after (s : Session) (deeds : List Deed) : Session := deeds.foldl undergo s

theorem after_append (s : Session) (deeds more : List Deed) :
    s.after (deeds ++ more) = (s.after deeds).after more := List.foldl_append

theorem acts_act (s : Session) (size : Nat) (a : Act) :
    s.act size a = s ∨ s.Acts (s.act size a) := by
  cases a with
  | start =>
    simp only [act]
    split
    · next sql s' hs => exact .inr (.start size sql s' hs)
    · exact .inl rfl
  | poll => exact .inr (.poll size)
  | fetch =>
    simp only [act]
    split
    · next page s' hf => exact .inr (.fetch size page s' hf)
    · exact .inl rfl

theorem act_start_of_ok {size : Nat} {r : String × Session} (h : s.start size = .ok r) :
    s.act size .start = r.2 := by
  simp only [act, h]

theorem act_start_of_error {size : Nat} {e : ViewError} (h : s.start size = .error e) :
    s.act size .start = s := by
  simp only [act, h]

def isDue (s : Session) : Bool := s.run.any (!·.stalled)

inductive Effect (s : Session) : Session → Prop where
  | stay : Effect s s
  | started (k : Connection) (size : Nat) (hs : s.state = .initialized)
    (hc : s.cancelled = false) (hk : s.slot = some k) :
    Effect s { s with state := .running, slot := none, run := some ⟨k, size, false⟩ }
  | looked (cursor : Nat) : Effect s { s with cursor }
  | closed : Effect s s.close
  | ended (state : SessionState) (hd : s.isDue = true) (hf : state.phase.isFinal = true) :
    Effect s { s with state, run := none }
  | stalled (k : Connection) (size : Nat) (hd : s.isDue = true) :
    Effect s { s with run := some ⟨k, size, true⟩ }

theorem start_eq_ok {size : Nat} {sql : String} (h : s.start size = .ok (sql, t)) :
    s.state = .initialized ∧ s.cancelled = false ∧ ∃ k, s.slot = some k ∧
      t = { s with state := .running, slot := none, run := some ⟨k, size, false⟩ } := by
  unfold start at h
  split at h
  · next k hst hc hk =>
    cases h
    exact ⟨hst, hc, k, hk, rfl⟩
  · cases h
  · cases h

theorem act_eq_cursor {a : Act} (h : a ≠ .start) (s : Session) (size : Nat) :
    ∃ cursor, s.act size a = { s with cursor } := by
  cases a with
  | start => exact (h rfl).elim
  | poll =>
    simp only [act, poll]
    split
    · exact ⟨_, rfl⟩
    · exact ⟨s.cursor, rfl⟩
  | fetch =>
    simp only [act, fetch]
    split
    · next hf =>
      split at hf <;> cases hf
      exact ⟨_, rfl⟩
    · exact ⟨s.cursor, rfl⟩

theorem isFinal_resultState? {o : Outcome} {state : SessionState}
    (h : s.resultState? o = some state) : state.phase.isFinal = true := by
  rcases phase_resultState? h with he | he <;> rw [he] <;> rfl

theorem effect_settle (s : Session) (events : Connection → Nat → List StreamEvent) :
    s.Effect (s.settle events) := by
  unfold settle
  split
  · next k size hr =>
    have hd : s.isDue = true := by simp [isDue, hr]
    split
    · next state hs => exact .ended state hd (isFinal_resultState? hs)
    · exact .stalled k size hd
  · exact .stay

theorem effect_undergo (s : Session) (d : Deed) : s.Effect (s.undergo d) := by
  cases d with
  | act a size =>
    change s.Effect (s.act size a)
    by_cases ha : a = .start
    · subst ha
      cases hs : s.start size with
      | ok r =>
        obtain ⟨hst, hc, k, hk, hr⟩ := start_eq_ok hs
        rw [act_start_of_ok hs, hr]
        exact .started k size hst hc hk
      | error e =>
        rw [act_start_of_error hs]
        exact .stay
    · obtain ⟨cursor, he⟩ := act_eq_cursor ha s size
      rw [he]
      exact .looked cursor
  | close => exact .closed
  | settle stream => exact effect_settle s _

theorem settle_of_not_due (h : s.isDue = false)
    (events : Connection → Nat → List StreamEvent) : s.settle events = s := by
  unfold settle
  split
  · next hr => simp [isDue, hr] at h
  · rfl

theorem isDue_settle (s : Session) (events : Connection → Nat → List StreamEvent) :
    (s.settle events).isDue = false := by
  cases hd : s.isDue with
  | false => rw [settle_of_not_due hd, hd]
  | true =>
    obtain ⟨⟨k, size, stalled⟩, hr, hs⟩ := (Option.any_eq_true _ _).mp hd
    have hstalled : stalled = false := by simpa using hs
    subst hstalled
    unfold settle
    rw [hr]
    dsimp only
    split <;> rfl

theorem Effect.target (h : s.Effect t) :
    t.id = s.id ∧ t.relation = s.relation ∧ t.query = s.query := by
  cases h <;> exact ⟨rfl, rfl, rfl⟩

theorem after_target (s : Session) (deeds : List Deed) : (s.after deeds).id = s.id ∧
    (s.after deeds).relation = s.relation ∧ (s.after deeds).query = s.query := by
  induction deeds generalizing s with
  | nil => exact ⟨rfl, rfl, rfl⟩
  | cons d rest ih =>
    obtain ⟨hid, hr, hq⟩ := (effect_undergo s d).target
    rw [← hid, ← hr, ← hq]
    exact ih (s.undergo d)

end Session

end DbConsole
