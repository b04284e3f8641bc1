import DbConsole.View.Error

namespace DbConsole

structure ResultColumn where
  name : String
  typeName : String
  notNull : Bool
  isPrimaryKey : Bool
deriving DecidableEq, Inhabited

namespace ResultColumn

def ofRelation (r : Relation) : List ResultColumn :=
  r.columns.map fun c => ⟨c.name, c.typeName, c.notNull, r.primaryKey.contains c.name⟩

end ResultColumn

/-- Rows from `start` up to `stop`, the first row being row 0 and row `stop` not among them. -/
structure Page where
  rows : List Row
  start : Nat
  stop : Nat
  hasMore : Bool
deriving Inhabited

structure Summary where
  /-- The count of rows, or the error. -/
  status : String
  columns : List ResultColumn
  primaryKey : List String
  rows : List Row
deriving Inhabited

namespace Summary

def success (rows : List Row) (columns : List ResultColumn) (primaryKey : List String) : Summary :=
  ⟨s!"SELECT {rows.length}", columns, primaryKey, rows⟩

def failure (message : String) : Summary := ⟨message, [], [], []⟩

def rowCount (s : Summary) : Nat := s.rows.length

def page (s : Summary) (start size : Nat) : Page :=
  let stop := min (start + size) s.rowCount
  let start := min start s.rowCount
  ⟨(s.rows.take stop).drop start, start, stop, stop < s.rowCount⟩

end Summary

/-- Where a session stands. There is a summary exactly in the two last states. -/
inductive SessionState where
  | initialized
  | running
  | completed (s : Summary)
  | failed (s : Summary)
deriving Inhabited

namespace SessionState

def phase : SessionState → Phase
  | .initialized => .initialized
  | .running => .running
  | .completed _ => .completed
  | .failed _ => .failed

def summary? : SessionState → Option Summary
  | .completed s | .failed s => some s
  | .initialized | .running => none

end SessionState

structure Progress where
  state : SessionState
  /-- All rows handed out so far, once the query is completed. -/
  page : Option Page
deriving Inhabited

namespace Progress

def handedOut (s : Progress) : Nat := s.page.elim 0 (·.stop)

end Progress

end DbConsole
