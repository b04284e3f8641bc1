import DbConsole.Proofs.Console.Deeds
import DbConsole.Proofs.View.Starts

namespace DbConsole

def Answer.succeeds : Answer → Bool
  | .failed _ | .broken | .pending | .unknownName => false
  | .response r => r.status == 200
  | _ => true

def Deed.isStart : Deed → Bool
  | .act .start _ => true
  | _ => false

namespace Console

variable {c : Console} {h : Handle} {s : Session} {step : Step}

def tally (count : Console → Step → Nat) (c : Console) : List Step → Nat
  | [] => 0
  | step :: rest => count c step + (c.step step).2.tally count rest

def asksStart (c : Console) (h : Handle) (step : Step) : Bool :=
  (c.deeds h step.calls).any (·.isStart)

def startsAt (h : Handle) (c : Console) (step : Step) : Nat :=
  (c.asksStart h step && (c.step step).1.succeeds).toNat

/-- How often a step carries out the query of the session. -/
def executionsAt (h : Handle) (c : Console) (step : Step) : Nat :=
  (c.sessionAt h).elim 0 fun s => s.tally Session.executionOf (c.deeds h step.calls)

theorem isOk_startHeld (c : Console) (h : Handle) (s : Session) (size : Nat) :
    (c.startHeld h s size).isOk = (s.start size).isOk := by
  unfold startHeld
  cases s.start size <;> rfl

theorem isOk_start (c : Console) (id : String) :
    (c.start id).isOk = (c.session? id).any fun s => (s.start c.pageSize).isOk := by
  cases hs : c.session? id with
  | none =>
    rw [start_of_none hs]
    rfl
  | some s => rw [start_of_some hs, isOk_startHeld, Option.any_some]

theorem succeeds_changeView {α : Type} {answer : α → Answer}
    (ha : ∀ a, (answer a).succeeds = true) (c : Console)
    (result : Except ViewError (α × Console)) :
    (c.changeView answer result).1.succeeds = result.isOk := by
  cases result with
  | ok r => exact ha r.1
  | error e => rfl

theorem status_respond {α : Type} (c : Console) (data : α → Json)
    (result : Except ViewError (α × Console)) :
    ((c.respond data result).1.status == 200) = result.isOk := by
  cases result with
  | ok r => rfl
  | error e => cases e <;> rfl

/-- A step that asks for a start succeeds if the session is there and can be started, and else
changes nothing. -/
structure StartStep (c : Console) (h : Handle) (step : Step) (size : Nat) : Prop where
  deeds : c.deeds h step.calls = [.act .start size]
  succeeds : (c.step step).1.succeeds = (c.sessionAt h).any fun s => (s.start size).isOk
  console : (c.step step).2 = c.actAt h .start size

theorem startStep_start (c : Console) (id : String) :
    c.StartStep (c.place id) (.start id) c.pageSize where
  deeds := by simp [Step.calls, Console.deeds, deed?]
  succeeds := by
    rw [sessionAt_place_eq, ← isOk_start]
    exact succeeds_changeView (fun _ => rfl) c _
  console := step_of_calls (by simp [Step.calls])

theorem startStep_serve (c : Console) {r : Http.Request} {id : String}
    (hr : r.route? = some (.start id)) : c.StartStep (c.place id) (.serve r) c.pageSize where
  deeds := by simp [Step.calls, Http.Request.calls, hr, Http.Route.calls, Console.deeds, deed?]
  succeeds := by
    rw [sessionAt_place_eq, ← isOk_start]
    change ((c.serve r).1.status == 200) = _
    rw [status_of_route hr]
    exact status_respond c _ _
  console := by
    have hc : Step.calls (.serve r) = [.registered id .start] := by
      simp [Step.calls, Http.Request.calls, hr, Http.Route.calls]
    rw [step_of_calls (by rw [hc]; simp), hc]
    rfl

theorem startStep_startHeld {name : String} (hn : c.handles.find? name = some h) (size : Nat) :
    c.StartStep h (.startHeld name size) size where
  deeds := by simp [Step.calls, Console.deeds, deed?, hn]
  succeeds := by
    cases hs : c.sessionAt h with
    | none =>
      have hh : c.held? name = none := by
        unfold held?
        unfold sessionAt at hs
        simp [hn, hs]
      simp only [Console.step, withHeld, hh]
      rfl
    | some s =>
      simp only [Console.step, withHeld, held?_of_some hn hs, Option.any_some]
      rw [succeeds_changeView fun _ => rfl, isOk_startHeld]
  console := by
    rw [step_of_calls (by simp [Step.calls])]
    simp [Step.calls, callAll, call, hn]

theorem start_of_deed {a : Call} (ha : (c.deed? h a).any (·.isStart)) :
    (∃ id, a = .registered id .start ∧ h = c.place id) ∨
      ∃ name size, a = .held name .start size ∧ c.handles.find? name = some h := by
  cases a with
  | registered id a =>
    simp only [deed?] at ha
    split at ha
    · next hp =>
      cases a with
      | start => exact .inl ⟨id, rfl, hp⟩
      | poll | fetch => cases ha
    · cases ha
  | held name a size =>
    simp only [deed?] at ha
    split at ha
    · next hn =>
      cases a with
      | start => exact .inr ⟨name, size, rfl, hn⟩
      | poll | fetch => cases ha
    · cases ha
  | close | closeHeld | closeAll =>
    simp only [deed?] at ha
    split at ha <;> cases ha
  | openSession | openPair | settle => cases ha

theorem step_of_start {id : String} (hc : step.calls = [.registered id .start]) :
    step = .start id ∨ ∃ r, step = .serve r ∧ r.route? = some (.start id) := by
  cases step with
  | start id' =>
    cases hc
    exact .inl rfl
  | serve r =>
    refine .inr ⟨r, rfl, ?_⟩
    simp only [Step.calls, Http.Request.calls] at hc
    split at hc
    · next route hr =>
      cases route with
      | start id' =>
        cases hc
        exact hr
      | openView =>
        simp only [Http.Route.calls] at hc
        split at hc <;> cases hc
      | poll | fetch | close | trigger | relation | health => cases hc
    · cases hc
  | closeIdle seconds | sweep seconds =>
    simp only [Step.calls] at hc
    split at hc <;> cases hc
  | _ => cases hc

theorem step_of_startHeld {name : String} {size : Nat}
    (hc : step.calls = [.held name .start size]) : step = .startHeld name size := by
  cases step with
  | startHeld name' size' =>
    cases hc
    rfl
  | serve r =>
    simp only [Step.calls, Http.Request.calls] at hc
    split at hc
    · next route _ =>
      cases route with
      | openView =>
        simp only [Http.Route.calls] at hc
        split at hc <;> cases hc
      | start | poll | fetch | close | trigger | relation | health => cases hc
    · cases hc
  | closeIdle seconds | sweep seconds =>
    simp only [Step.calls] at hc
    split at hc <;> cases hc
  | _ => cases hc

theorem startStep_of_asks (ha : c.asksStart h step) : ∃ size, c.StartStep h step size := by
  unfold asksStart at ha
  rcases step.calls_cases with he | ⟨a, he⟩ | he
  · rw [he] at ha
    cases ha
  · rw [he, deeds, deeds, List.append_nil] at ha
    have hd : (c.deed? h a).any (·.isStart) := by
      cases hd : c.deed? h a with
      | none => simp [hd] at ha
      | some d => simpa [hd] using ha
    rcases start_of_deed hd with ⟨id, rfl, rfl⟩ | ⟨name, size, rfl, hn⟩
    · rcases step_of_start he with rfl | ⟨r, rfl, hr⟩
      · exact ⟨_, startStep_start c id⟩
      · exact ⟨_, startStep_serve c hr⟩
    · rw [step_of_startHeld he]
      exact ⟨size, startStep_startHeld hn size⟩
  · rw [he] at ha
    simp only [deeds, deed?] at ha
    split at ha <;> cases ha

theorem step_of_failed_start (ha : c.asksStart h step) (hf : (c.step step).1.succeeds = false) :
    (c.step step).2 = c := by
  obtain ⟨size, hstart⟩ := startStep_of_asks ha
  rw [hstart.console]
  rw [hstart.succeeds] at hf
  cases hs : c.sessionAt h with
  | none => exact actAt_of_none hs .start size
  | some s =>
    rw [hs, Option.any_some] at hf
    rw [actAt_eq hs]
    cases hr : s.start size with
    | ok r => simp [hr, Except.isOk, Except.toBool] at hf
    | error e => rw [Session.act_start_of_error hr, putHeld_self hs]

theorem startOf_of_not_isStart (s : Session) {d : Deed} (hd : d.isStart = false) :
    s.startOf d = 0 := by
  cases d with
  | act a size =>
    cases a with
    | start => cases hd
    | poll | fetch => rfl
  | close | settle => rfl

theorem tally_startOf_of_none (s : Session) {deeds : List Deed}
    (hd : ∀ d ∈ deeds, d.isStart = false) : s.tally Session.startOf deeds = 0 := by
  induction deeds generalizing s with
  | nil => rfl
  | cons d rest ih =>
    rw [Session.tally, startOf_of_not_isStart s (hd d (.head _)),
      ih _ fun d hm => hd d (.tail _ hm)]

theorem startsAt_eq (hs : c.sessionAt h = some s) (step : Step) :
    startsAt h c step = s.tally Session.startOf (c.deeds h step.calls) := by
  unfold startsAt
  cases ha : c.asksStart h step with
  | false =>
    have hn : ∀ d ∈ c.deeds h step.calls, d.isStart = false := by
      simpa [asksStart] using ha
    rw [tally_startOf_of_none s hn]
    rfl
  | true =>
    obtain ⟨size, hstart⟩ := startStep_of_asks ha
    rw [hstart.deeds, hstart.succeeds, hs, Option.any_some, Bool.true_and]
    rfl

theorem startsAt_of_none (hn : c.sessionAt h = none) (step : Step) : startsAt h c step = 0 := by
  unfold startsAt
  cases ha : c.asksStart h step with
  | false => rfl
  | true =>
    obtain ⟨size, hstart⟩ := startStep_of_asks ha
    rw [hstart.succeeds, hn]
    rfl

theorem tally_of_some {count : Console → Step → Nat} {f : Session → Deed → Nat}
    (hcount : ∀ {c : Console} {s : Session}, c.sessionAt h = some s → ∀ step,
      count c step = s.tally f (c.deeds h step.calls))
    (hs : c.sessionAt h = some s) (steps : List Step) :
    c.tally count steps = s.tally f (c.history h steps) := by
  induction steps generalizing c s with
  | nil => rfl
  | cons step rest ih =>
    rw [tally, history, Session.tally_append, hcount hs, ih (sessionAt_step hs step)]

theorem tally_le (hn : c.sessionAt h = none) (steps : List Step) :
    c.tally (startsAt h) steps ≤ 1 ∧
      c.tally (executionsAt h) steps ≤ c.tally (startsAt h) steps := by
  induction steps generalizing c with
  | nil => exact ⟨Nat.zero_le _, Nat.le_refl _⟩
  | cons step rest ih =>
    have he : executionsAt h c step = 0 := by rw [executionsAt, hn, Option.elim_none]
    rw [tally, tally, startsAt_of_none hn, he, Nat.zero_add, Nat.zero_add]
    cases hs : (c.step step).2.sessionAt h with
    | none => exact ih hs
    | some s =>
      obtain ⟨id, r, q, k, rfl⟩ := new_of_step hn hs
      rw [tally_of_some startsAt_eq hs, tally_of_some (fun hs step => ?_) hs]
      · exact Session.starts_le rfl _
      · rw [executionsAt, hs, Option.elim_some]

end Console

end DbConsole
