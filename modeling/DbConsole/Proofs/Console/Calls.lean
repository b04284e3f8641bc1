import DbConsole.Proofs.Console.Opening
import DbConsole.Proofs.View.Deeds

namespace DbConsole

/-- What a step asks of the sessions. -/
inductive Call where
  | openSession (id : String) (request : ViewRequest)
  | openPair (id : String) (request : ViewRequest) (turns : List Turn)
  | registered (id : String) (a : Act)
  | close (id : String)
  | held (name : String) (a : Act) (size : Nat)
  | closeHeld (name : String)
  | closeAll
  | settle

namespace Http

def Route.calls (body : String) : Route → List Call
  | .openView id mode kind database oid =>
    match Console.readRequest mode kind database oid body with
    | .ok request => [.openSession id request]
    | .error _ => []
  | .start id => [.registered id .start]
  | .poll id => [.registered id .poll]
  | .fetch id => [.registered id .fetch]
  | .close id => [.close id]
  | .trigger .. | .relation .. | .health => []

/-- The route of a request whose path leads somewhere and takes the method. -/
def Request.route? (r : Request) : Option Route :=
  match (segments? r.uri).bind Endpoint.ofSegments? with
  | some (e, parameters) =>
    if r.method ∈ e.methods then (e.route parameters).toOption else none
  | none => none

def Request.calls (r : Request) : List Call :=
  match r.route? with
  | some route => route.calls r.body
  | none => []

end Http

/-- All that a step asks of the sessions, one after the other. -/
def Step.calls : Step → List Call
  | .openSession id request => [.openSession id request]
  | .openFresh random request => [.openSession (Session.freshId random) request]
  | .openPair id request turns => [.openPair id request turns]
  | .start id => [.registered id .start]
  | .poll id => [.registered id .poll]
  | .fetch id => [.registered id .fetch]
  | .close id => [.close id]
  | .closeAll => [.closeAll]
  | .closeIdle seconds => if seconds = 0 then [.closeAll] else []
  | .sweep seconds => (if seconds = 0 then [.closeAll] else []) ++ [.settle]
  | .settle => [.settle]
  | .startHeld name size => [.held name .start size]
  | .pollHeld name size => [.held name .poll size]
  | .fetchHeld name size => [.held name .fetch size]
  | .closeHeld name => [.closeHeld name]
  | .serve r => r.calls
  | _ => []

namespace Console

variable {c c' : Console} {h : Handle} {s : Session} {id name : String}

def actAt (c : Console) (h : Handle) (a : Act) (size : Nat) : Console :=
  match c.sessionAt h with
  | some s => c.putHeld h (s.act size a)
  | none => c

def call (c : Console) : Call → Console
  | .openSession id request => (c.openSession id request).2
  | .openPair id request turns => (c.openPair id request request turns).2.2
  | .registered id a => c.actAt (c.place id) a c.pageSize
  | .close id => (c.close id).2
  | .held name a size => (c.handles.find? name).elim c fun h => c.actAt h a size
  | .closeHeld name => (c.held? name).elim c fun (h, s) => c.closeHeld h s
  | .closeAll => c.closeAll
  | .settle => c.settle

def callAll (c : Console) (calls : List Call) : Console := calls.foldl call c

def upon {α : Type} (c : Console) : Except ViewError (α × Console) → Console
  | .ok (_, c) => c
  | .error _ => c

theorem sessionAt_place_eq (c : Console) (id : String) :
    c.sessionAt (c.place id) = c.session? id := by
  simp [sessionAt, place, session?, Lineage.get?]

theorem find?_of_sessionAt (hs : c.sessionAt h = some s) :
    c.sessions.find? h.id = some (c.lineage h.id) := by
  unfold sessionAt at hs
  unfold lineage at hs ⊢
  cases hf : c.sessions.find? h.id with
  | none => simp [hf, Lineage.empty, Lineage.get?] at hs
  | some l => rfl

theorem putHeld_self (hs : c.sessionAt h = some s) : c.putHeld h s = c := by
  unfold putHeld putLineage
  rw [Lineage.set_self hs, SortedMap.insert_self (find?_of_sessionAt hs)]

theorem actAt_eq (hs : c.sessionAt h = some s) (a : Act) (size : Nat) :
    c.actAt h a size = c.putHeld h (s.act size a) := by
  unfold actAt
  rw [hs]

theorem upon_startHeld (hs : c.sessionAt h = some s) (size : Nat) :
    c.upon (c.startHeld h s size) = c.actAt h .start size := by
  rw [actAt_eq hs]
  simp only [startHeld, Session.act]
  cases s.start size with
  | ok r => rfl
  | error e => exact (putHeld_self hs).symm

theorem upon_fetchHeld (hs : c.sessionAt h = some s) (size : Nat) :
    c.upon (c.fetchHeld h s size) = c.actAt h .fetch size := by
  rw [actAt_eq hs]
  simp only [fetchHeld, Session.act]
  cases s.fetch size with
  | ok r => rfl
  | error e => exact (putHeld_self hs).symm

theorem session_of_some (hs : c.session? id = some s) : c.session id = .ok s := by
  unfold session
  rw [hs]

theorem session_of_none (hn : c.session? id = none) :
    c.session id = .error (.unknownSession id) := by
  unfold session
  rw [hn]

theorem start_of_some (hs : c.session? id = some s) :
    c.start id = c.startHeld (c.place id) s c.pageSize := by
  unfold start startHeld
  rw [session_of_some hs]
  simp only [putSession_eq_putHeld hs]
  rfl

theorem poll_of_some (hs : c.session? id = some s) :
    c.poll id = .ok (c.pollHeld (c.place id) s c.pageSize) := by
  unfold poll pollHeld
  rw [session_of_some hs]
  simp only [putSession_eq_putHeld hs]
  rfl

theorem fetch_of_some (hs : c.session? id = some s) :
    c.fetch id = c.fetchHeld (c.place id) s c.pageSize := by
  unfold fetch fetchHeld
  rw [session_of_some hs]
  simp only [putSession_eq_putHeld hs]
  rfl

theorem start_of_none (hn : c.session? id = none) :
    c.start id = .error (.unknownSession id) := by
  unfold start
  rw [session_of_none hn]
  rfl

theorem poll_of_none (hn : c.session? id = none) : c.poll id = .error (.unknownSession id) := by
  unfold poll
  rw [session_of_none hn]
  rfl

theorem fetch_of_none (hn : c.session? id = none) :
    c.fetch id = .error (.unknownSession id) := by
  unfold fetch
  rw [session_of_none hn]
  rfl

theorem actAt_of_none (hn : c.sessionAt h = none) (a : Act) (size : Nat) :
    c.actAt h a size = c := by
  unfold actAt
  rw [hn]

theorem upon_start (c : Console) (id : String) :
    c.upon (c.start id) = c.call (.registered id .start) := by
  simp only [call]
  cases hs : c.session? id with
  | none => rw [start_of_none hs, actAt_of_none ((sessionAt_place_eq c id).trans hs), upon]
  | some s => rw [start_of_some hs, upon_startHeld ((sessionAt_place_eq c id).trans hs)]

theorem upon_poll (c : Console) (id : String) :
    c.upon (c.poll id) = c.call (.registered id .poll) := by
  simp only [call]
  cases hs : c.session? id with
  | none => rw [poll_of_none hs, actAt_of_none ((sessionAt_place_eq c id).trans hs), upon]
  | some s =>
    rw [poll_of_some hs, actAt_eq ((sessionAt_place_eq c id).trans hs)]
    rfl

theorem upon_fetch (c : Console) (id : String) :
    c.upon (c.fetch id) = c.call (.registered id .fetch) := by
  simp only [call]
  cases hs : c.session? id with
  | none => rw [fetch_of_none hs, actAt_of_none ((sessionAt_place_eq c id).trans hs), upon]
  | some s => rw [fetch_of_some hs, upon_fetchHeld ((sessionAt_place_eq c id).trans hs)]

theorem sessions_actAt (c : Console) (h : Handle) (a : Act) (size : Nat) :
    Relation.ReflTransGen SessionMove c (c.actAt h a size) := by
  cases hs : c.sessionAt h with
  | none =>
    rw [actAt_of_none hs]
  | some s =>
    rw [actAt_eq hs]
    rcases s.acts_act size a with he | ha
    · rw [he, putHeld_self hs]
    · exact .single (.act h s _ hs ha)

theorem sessions_call (c : Console) (a : Call) :
    Relation.ReflTransGen SessionMove c (c.call a) := by
  cases a with
  | openSession id request => exact sessions_of_openings (openSession_moves id request c)
  | openPair id request turns =>
    exact sessions_of_openings (openPair_moves id request request c turns)
  | registered id a => exact sessions_actAt c _ a _
  | close id =>
    simp only [call, close]
    split
    · next s hs => exact .single (.close id s hs)
    · exact .refl
  | held name a size =>
    simp only [call]
    cases c.handles.find? name with
    | none => exact .refl
    | some h => exact sessions_actAt c h a size
  | closeHeld name =>
    simp only [call]
    cases hh : c.held? name with
    | none => exact .refl
    | some r => exact .single (.closeHeld r.1 r.2 (of_held hh).2)
  | closeAll => exact .single .closeAll
  | settle => exact .single .settle

theorem sessions_callAll (c : Console) (calls : List Call) :
    Relation.ReflTransGen SessionMove c (c.callAll calls) := by
  induction calls generalizing c with
  | nil => exact .refl
  | cons a rest ih => exact (sessions_call c a).trans (ih (c.call a))

end Console

end DbConsole
