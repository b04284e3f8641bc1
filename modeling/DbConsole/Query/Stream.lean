import DbConsole.Catalog.Error

namespace DbConsole

inductive Payload where
  | text (s : String)
  | other
deriving DecidableEq

namespace Payload

def report : Payload → String
  | .text s => s
  | .other => "unknown panic"

end Payload

inductive StreamEvent where
  | batch (rows : List Row)
  | error (e : CatalogError)
  | abort (payload : Payload)
  /-- Nothing comes any more, not even an end. -/
  | stall

/-- A fault that a query meets after it has produced some events. -/
structure QueryFault where
  after : Nat
  event : StreamEvent

def QueryFault.apply (fault : Option QueryFault) (events : List StreamEvent) : List StreamEvent :=
  match fault with
  | none => events
  | some f => events.take f.after ++ [f.event]

inductive Outcome where
  | completed (rows : List Row)
  | failed (e : CatalogError)
  | aborted (payload : Payload)
  | stalled

namespace Outcome

/-- Reads events up to the first that is no batch, with `rows` read before. -/
def collect (rows : List Row) : List StreamEvent → Outcome
  | [] => .completed rows
  | .batch more :: rest => collect (rows ++ more) rest
  | .error e :: _ => .failed e
  | .abort payload :: _ => .aborted payload
  | .stall :: _ => .stalled

def ofEvents (events : List StreamEvent) : Outcome := collect [] events

end Outcome

/-- Cuts a list into pieces of `size + 1` elements; only the last may be shorter. -/
def chunks {α : Type} (size : Nat) : List α → List (List α)
  | [] => []
  | a :: rest => (a :: rest.take size) :: chunks size (rest.drop size)
termination_by l => l.length
decreasing_by simp only [List.length_drop, List.length_cons]; omega

/-- The batches of at most `size` rows in which rows are handed out; size zero counts as one. -/
def batches (size : Nat) (rows : List Row) : List (List Row) := chunks (size - 1) rows

end DbConsole
