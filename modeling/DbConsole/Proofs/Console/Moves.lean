import DbConsole.Console.Step
import DbConsole.Proofs.Catalog.Change
import DbConsole.Proofs.View.Lineage
import DbConsole.Proofs.View.Session
import Mathlib.Logic.Relation

namespace DbConsole

namespace Console

def sessionAt (c : Console) (h : Handle) : Option Session := (c.lineage h.id).get? h.place

/-- Where the session registered under an id is found, or the next one that will be. -/
def place (c : Console) (id : String) : Handle := ⟨id, (c.lineage id).retired.length⟩

/-- What can happen outside the sessions. -/
inductive OuterMove (c : Console) : Console → Prop where
  | change (catalog : Catalog) (h : c.catalog.Change catalog) : OuterMove c { c with catalog }
  | hold (name : String) (h : Handle) :
    OuterMove c { c with handles := c.handles.insert name h }
  | link (name : String) (k : Connection) (hr : c.catalog.reach k.database = .ok ()) :
    OuterMove c ({ c with links := c.links.insert name k, connections := c.connections + 1 }.release
      (if c.links.contains name then 1 else 0))
  | unlink (name : String) (h : c.links.contains name) :
    OuterMove c ({ c with links := c.links.erase name }.release 1)

abbrev OuterMoves : Console → Console → Prop := Relation.ReflGen OuterMove

/-- What can happen to the sessions. -/
inductive SessionMove (c : Console) : Console → Prop where
  | opened (id : String) (request : ViewRequest) (r : Relation) (q : Select)
    (hf : ¬c.isRegistered id) (hr : c.catalog.reach request.target.database = .ok ())
    (hp : request.prepare (c.catalog.relation request.target.database request.target.oid) =
      .ok (r, q)) :
    SessionMove c { c.putSession id (.new id r q ⟨request.target.database⟩) with
      connections := c.connections + 1 }
  | act (h : Handle) (s s' : Session) (hs : c.sessionAt h = some s) (ha : s.Acts s') :
    SessionMove c (c.putHeld h s')
  | closeHeld (h : Handle) (s : Session) (hs : c.sessionAt h = some s) :
    SessionMove c (c.closeHeld h s)
  | close (id : String) (s : Session) (hs : c.session? id = some s) :
    SessionMove c ((c.putLineage id (c.lineage id).retire).release s.connections)
  | closeAll : SessionMove c c.closeAll
  | settle : SessionMove c c.settle

inductive Moves (c : Console) : Console → Prop where
  | stay : Moves c c
  | outer (c' : Console) (h : c.OuterMove c') : Moves c c'
  | sessions (c' : Console) (h : Relation.ReflTransGen SessionMove c c') : Moves c c'

variable {c c' : Console} {id : String}

theorem Moves.outside (h : c.OuterMoves c') : c.Moves c' := by
  cases h with
  | refl => exact .stay
  | single h => exact .outer _ h

theorem sessions_eq_of_outerMoves (h : c.OuterMoves c') : c'.sessions = c.sessions := by
  cases h with
  | refl => rfl
  | single h => cases h <;> rfl

theorem ok_of_strike {α : Type} {fault : Option CatalogError} {x : Except CatalogError α} {a : α}
    (h : Faults.strike fault x = .ok a) : x = .ok a := by
  cases fault with
  | none => exact h
  | some e => cases h

theorem connect_eq_ok {p : DatabasePath} {r : Connection × Console} (h : c.connect p = .ok r) :
    c.catalog.reach p = .ok () ∧ r = (⟨p⟩, { c with connections := c.connections + 1 }) := by
  obtain ⟨_, hr, h⟩ := bind_eq_ok.mp h
  cases h
  exact ⟨ok_of_strike hr, rfl⟩

theorem execute_eq_ok {k : Connection} {statements : List Statement}
    (h : c.execute k statements = .ok c') :
    ∃ catalog, c.catalog.Change catalog ∧ c' = { c with catalog } := by
  obtain ⟨catalog, hx, h⟩ := bind_eq_ok.mp h
  cases h
  exact ⟨catalog, Catalog.change_of_execute (ok_of_strike hx), rfl⟩

theorem sessionAt_place {s : Session} (h : c.session? id = some s) :
    c.sessionAt (c.place id) = some s := Lineage.get?_current h

theorem putSession_eq_putHeld {s : Session} (h : c.session? id = some s) (s' : Session) :
    c.putSession id s' = c.putHeld (c.place id) s' := by
  unfold putSession putHeld
  rw [Lineage.register_eq_set h]
  rfl

theorem of_held {name : String} {h : Handle} {s : Session} (hh : c.held? name = some (h, s)) :
    c.handles.find? name = some h ∧ c.sessionAt h = some s := by
  obtain ⟨_, hf, hh⟩ := Option.bind_eq_some_iff.mp hh
  obtain ⟨_, hs, hh⟩ := Option.bind_eq_some_iff.mp hh
  cases hh
  exact ⟨hf, hs⟩

end Console

end DbConsole
