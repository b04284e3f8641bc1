import DbConsole.Proofs.Console.Handles

namespace DbConsole

theorem Step.calls_cases (step : Step) :
    step.calls = [] ∨ (∃ a, step.calls = [a]) ∨ step.calls = [.closeAll, .settle] := by
  cases step with
  | closeIdle seconds =>
    simp only [Step.calls]
    split
    · exact .inr (.inl ⟨_, rfl⟩)
    · exact .inl rfl
  | sweep seconds =>
    simp only [Step.calls]
    split
    · exact .inr (.inr rfl)
    · exact .inr (.inl ⟨_, rfl⟩)
  | serve r =>
    simp only [Step.calls, Http.Request.calls]
    split
    · next route _ =>
      cases route with
      | openView id mode kind database oid =>
        simp only [Http.Route.calls]
        split
        · exact .inr (.inl ⟨_, rfl⟩)
        · exact .inl rfl
      | start | poll | fetch | close => exact .inr (.inl ⟨_, rfl⟩)
      | trigger | relation | health => exact .inl rfl
    · exact .inl rfl
  | openSession | openFresh | openPair | start | poll | fetch | close | closeAll | settle
  | startHeld | pollHeld | fetchHeld | closeHeld => exact .inr (.inl ⟨_, rfl⟩)
  | _ => exact .inl rfl

namespace Console

/-- What a call does to the session that a handle leads to, if there is one. -/
def deed? (c : Console) (h : Handle) : Call → Option Deed
  | .openSession .. | .openPair .. => none
  | .registered id a => if h = c.place id then some (.act a c.pageSize) else none
  | .close id => if h = c.place id then some .close else none
  | .held name a size => if c.handles.find? name = some h then some (.act a size) else none
  | .closeHeld name => if c.handles.find? name = some h then some .close else none
  | .closeAll => if h = c.place h.id then some .close else none
  | .settle => some (.settle c.stream)

def deeds (c : Console) (h : Handle) : List Call → List Deed
  | [] => []
  | a :: rest => (c.deed? h a).toList ++ (c.call a).deeds h rest

/-- All that is done to the session that a handle leads to in the course of some steps. -/
def history (c : Console) (h : Handle) : List Step → List Deed
  | [] => []
  | step :: rest => c.deeds h step.calls ++ (c.step step).2.history h rest

variable {c c' : Console} {h h₀ : Handle} {s : Session} {id name : String}

theorem sessionAt_place_of_free (hf : ¬c.isRegistered id) : c.sessionAt (c.place id) = none := by
  rw [sessionAt_place_eq]
  simpa [isRegistered] using hf

theorem sessionAt_of_openings (hm : Relation.ReflTransGen (OpenMove id) c c')
    (hs : c.sessionAt h = some s) : c'.sessionAt h = some s := by
  induction hm with
  | refl => exact hs
  | @tail c₁ c₂ _ hm ih =>
    cases hm with
    | opened request r q hf hr hp =>
      have hne : h ≠ c₁.place id := by
        rintro rfl
        cases ih.symm.trans (sessionAt_place_of_free hf)
      change (c₁.putSession id _).sessionAt h = some s
      rw [sessionAt_putSession hf, if_neg hne]
      exact ih

theorem sessionAt_actAt (c : Console) (h₀ : Handle) (a : Act) (size : Nat) (h : Handle) :
    (c.actAt h₀ a size).sessionAt h =
      if h = h₀ then (c.sessionAt h).map fun s => s.act size a else c.sessionAt h := by
  cases hs : c.sessionAt h₀ with
  | none =>
    rw [actAt_of_none hs]
    split
    · next he => rw [he, hs, Option.map_none]
    · rfl
  | some s =>
    rw [actAt_eq hs, sessionAt_putHeld hs]
    split
    · next he => rw [he, hs, Option.map_some]
    · rfl

theorem held?_of_some (hn : c.handles.find? name = some h) (hs : c.sessionAt h = some s) :
    c.held? name = some (h, s) := by
  unfold held?
  rw [hn]
  unfold sessionAt at hs
  simp [hs]

theorem sessionAt_closeHeld (c : Console) (name : String) (h : Handle) :
    (c.call (.closeHeld name)).sessionAt h =
      if c.handles.find? name = some h then (c.sessionAt h).map (·.close) else c.sessionAt h := by
  simp only [call]
  cases hh : c.held? name with
  | none =>
    split
    · next hn =>
      cases hs : c.sessionAt h with
      | none => exact hs
      | some s => cases hh.symm.trans (held?_of_some hn hs)
    · rfl
  | some r =>
    obtain ⟨h₀, s⟩ := r
    obtain ⟨hn, hs⟩ := of_held hh
    change (c.putHeld h₀ s.close).sessionAt h = _
    rw [sessionAt_putHeld hs, hn]
    by_cases he : h = h₀
    · rw [he, if_pos rfl, if_pos rfl, hs, Option.map_some]
    · rw [if_neg he, if_neg fun hi => he (Option.some.inj hi).symm]

theorem close_of_none (hn : c.session? id = none) : c.close id = (false, c) := by
  unfold close
  rw [hn]

theorem close_of_some (hs : c.session? id = some s) :
    c.close id = (true, (c.putLineage id (c.lineage id).retire).release s.connections) := by
  unfold close
  rw [hs]

theorem sessionAt_close (c : Console) (id : String) (h : Handle) :
    (c.close id).2.sessionAt h =
      if h = c.place id then (c.sessionAt h).map (·.close) else c.sessionAt h := by
  cases hs : c.session? id with
  | none =>
    rw [close_of_none hs]
    split
    · next he => rw [he, sessionAt_place_eq, hs, Option.map_none]
    · rfl
  | some s =>
    rw [close_of_some hs]
    change (c.putLineage id (c.lineage id).retire).sessionAt h = _
    rw [sessionAt_retire hs]
    split
    · next he => rw [he, sessionAt_place hs, Option.map_some]
    · rfl

theorem sessionAt_closeAll (c : Console) (h : Handle) :
    c.closeAll.sessionAt h =
      if h = c.place h.id then (c.sessionAt h).map (·.close) else c.sessionAt h := by
  unfold closeAll
  rw [sessionAt_replaceSessions rfl, ← sessionAt_close]
  cases hs : c.session? h.id with
  | none => rw [close_of_none hs, Lineage.retire_of_none hs, sessionAt_eq]
  | some s =>
    rw [close_of_some hs]
    change _ = (c.putLineage h.id (c.lineage h.id).retire).sessionAt h
    rw [sessionAt_putLineage, if_pos rfl]

/-- A call does to a session what is said of it, and what calls make of a session is made of it by
nothing else. -/
theorem sessionAt_call (hs : c.sessionAt h = some s) (a : Call) :
    (c.call a).sessionAt h = some (s.after (c.deed? h a).toList) := by
  cases a with
  | openSession id request => exact sessionAt_of_openings (openSession_moves id request c) hs
  | openPair id request turns =>
    exact sessionAt_of_openings (openPair_moves id request request c turns) hs
  | registered id a =>
    simp only [call, deed?, sessionAt_actAt, hs]
    split <;> rfl
  | close id =>
    simp only [call, deed?, sessionAt_close, hs]
    split <;> rfl
  | held name a size =>
    simp only [call, deed?]
    cases c.handles.find? name with
    | none => exact hs
    | some h₀ =>
      simp only [Option.elim_some, sessionAt_actAt, hs, Option.some.injEq, eq_comm]
      split <;> rfl
  | closeHeld name =>
    rw [sessionAt_closeHeld, hs]
    simp only [deed?]
    split <;> rfl
  | closeAll =>
    simp only [call, deed?, sessionAt_closeAll, hs]
    split <;> rfl
  | settle =>
    simp only [call, sessionAt_settle, hs]
    rfl

theorem sessionAt_callAll (hs : c.sessionAt h = some s) (calls : List Call) :
    (c.callAll calls).sessionAt h = some (s.after (c.deeds h calls)) := by
  induction calls generalizing c s with
  | nil => exact hs
  | cons a rest ih =>
    rw [deeds, Session.after_append]
    exact ih (sessionAt_call hs a)

theorem sessionAt_step (hs : c.sessionAt h = some s) (step : Step) :
    (c.step step).2.sessionAt h = some (s.after (c.deeds h step.calls)) := by
  rw [sessionAt_congr (sessions_step c step)]
  exact sessionAt_callAll hs step.calls

/-- Whatever happens to a console, a session that is there stays in its place, and becomes what was
done to it makes of it. -/
theorem sessionAt_run (hs : c.sessionAt h = some s) (steps : List Step) :
    (c.run steps).sessionAt h = some (s.after (c.history h steps)) := by
  induction steps generalizing c s with
  | nil => exact hs
  | cons step rest ih =>
    rw [history, Session.after_append]
    exact ih (sessionAt_step hs step)

theorem new_of_openings (hm : Relation.ReflTransGen (OpenMove id) c c')
    (hn : c.sessionAt h = none) (hs : c'.sessionAt h = some s) :
    ∃ r q k, s = .new id r q k := by
  induction hm with
  | refl => cases hn.symm.trans hs
  | @tail c₁ c₂ _ hm ih =>
    cases hm with
    | opened request r q hf hr hp =>
      change (c₁.putSession id _).sessionAt h = some s at hs
      rw [sessionAt_putSession hf] at hs
      split at hs
      · cases hs
        exact ⟨r, q, _, rfl⟩
      · exact ih hs

theorem new_of_call (hn : c.sessionAt h = none) {a : Call}
    (hs : (c.call a).sessionAt h = some s) : ∃ id r q k, s = .new id r q k := by
  cases a with
  | openSession id request =>
    exact ⟨id, new_of_openings (openSession_moves id request c) hn hs⟩
  | openPair id request turns =>
    exact ⟨id, new_of_openings (openPair_moves id request request c turns) hn hs⟩
  | registered id a =>
    simp [call, sessionAt_actAt, hn] at hs
  | close id =>
    simp [call, sessionAt_close, hn] at hs
  | held name a size =>
    simp only [call] at hs
    cases hh : c.handles.find? name with
    | none => simp [hh, hn] at hs
    | some h₀ => simp [hh, sessionAt_actAt, hn] at hs
  | closeHeld name => simp [sessionAt_closeHeld, hn] at hs
  | closeAll => simp [call, sessionAt_closeAll, hn] at hs
  | settle => simp [call, sessionAt_settle, hn] at hs

/-- A session that was not there before a step is as it was opened. -/
theorem new_of_step (hn : c.sessionAt h = none) {step : Step}
    (hs : (c.step step).2.sessionAt h = some s) : ∃ id r q k, s = .new id r q k := by
  rw [sessionAt_congr (sessions_step c step)] at hs
  rcases step.calls_cases with he | ⟨a, he⟩ | he
  · rw [he] at hs
    cases hn.symm.trans hs
  · rw [he] at hs
    exact new_of_call hn hs
  · rw [he] at hs
    simp [callAll, call, sessionAt_settle, sessionAt_closeAll, hn] at hs

end Console

end DbConsole
