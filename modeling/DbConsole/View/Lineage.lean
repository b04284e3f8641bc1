import DbConsole.View.Session

namespace DbConsole

/-- All sessions that were ever opened under one id, oldest first. At most the last one is
registered; the others are of interest only to those who still hold them. -/
structure Lineage where
  retired : List Session
  current : Option Session
deriving Inhabited

namespace Lineage

def empty : Lineage := ⟨[], none⟩

def get? (l : Lineage) (place : Nat) : Option Session :=
  if place < l.retired.length then l.retired[place]?
  else if place = l.retired.length then l.current
  else none

def set (l : Lineage) (place : Nat) (s : Session) : Lineage :=
  if place < l.retired.length then { l with retired := l.retired.set place s }
  else if place = l.retired.length ∧ l.current.isSome then { l with current := some s }
  else l

def map (l : Lineage) (f : Session → Session) : Lineage :=
  ⟨l.retired.map f, l.current.map f⟩

def register (l : Lineage) (s : Session) : Lineage := { l with current := some s }

def retire (l : Lineage) : Lineage :=
  match l.current with
  | some s => ⟨l.retired ++ [s.close], none⟩
  | none => l

def connections (l : Lineage) : Nat :=
  l.retired.foldr (fun s n => s.connections + n) 0 + l.current.elim 0 (·.connections)

end Lineage

end DbConsole
