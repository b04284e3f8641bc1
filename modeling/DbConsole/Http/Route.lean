import DbConsole.Catalog.Relation
import DbConsole.Http.Path

namespace DbConsole.Http

inductive Endpoint where
  | openView
  | start
  | poll
  | fetch
  | close
  | trigger
  | table
  | materializedView
  | health
deriving DecidableEq

inductive Route where
  | openView (id : String) (mode : UInt8) (kind : String) (database : DatabasePath) (oid : Oid)
  | start (id : String)
  | poll (id : String)
  | fetch (id : String)
  | close (id : String)
  | trigger (database : DatabasePath) (schema table trigger : Oid)
  | relation (kind : RelationKind) (database : DatabasePath) (schema oid : Oid)
  | health
deriving DecidableEq

namespace Endpoint

/-- The endpoint of a path with its parameters. The last segment is never empty. -/
def ofSegments? (segments : List String) : Option (Endpoint × List Parameter) :=
  if segments.getLast? = some "" then none
  else match segments with
    | ["health"] => some (.health, [])
    | ["sqleditor", "view_data", "start", id] => some (.start, [⟨"trans_id", id⟩])
    | ["sqleditor", "poll", id] => some (.poll, [⟨"trans_id", id⟩])
    | ["sqleditor", "fetch", id] => some (.fetch, [⟨"trans_id", id⟩])
    | ["datagrid", "close", id] => some (.close, [⟨"trans_id", id⟩])
    | ["datagrid", "initialize", "datagrid", id, mode, kind, g, s, d, o] =>
      some (.openView, [⟨"trans_id", id⟩, ⟨"view_mode", mode⟩, ⟨"obj_type", kind⟩,
        ⟨"sgid", g⟩, ⟨"sid", s⟩, ⟨"did", d⟩, ⟨"obj_id", o⟩])
    | ["browser", "trigger", "obj", g, s, d, c, t, r] =>
      some (.trigger, [⟨"gid", g⟩, ⟨"sid", s⟩, ⟨"did", d⟩, ⟨"scid", c⟩, ⟨"tid", t⟩, ⟨"trid", r⟩])
    | ["browser", "table", "obj", g, s, d, c, t] =>
      some (.table, [⟨"gid", g⟩, ⟨"sid", s⟩, ⟨"did", d⟩, ⟨"scid", c⟩, ⟨"tid", t⟩])
    | ["browser", "mview", "obj", g, s, d, c, v] =>
      some (.materializedView, [⟨"gid", g⟩, ⟨"sid", s⟩, ⟨"did", d⟩, ⟨"scid", c⟩, ⟨"vid", v⟩])
    | _ => none

def methods : Endpoint → List String
  | .openView => ["POST"]
  | .close => ["DELETE"]
  | .start | .poll | .fetch | .health => ["GET", "HEAD"]
  | .trigger | .table | .materializedView => ["GET", "HEAD", "PUT"]

/-- Whether a bad path is answered with its error alone, and not as an object that is not there. -/
def isPlain : Endpoint → Bool
  | .start | .poll | .fetch | .close => true
  | _ => false

def database (t : Texts) (place : Nat) : Except PathError DatabasePath := do
  let group ← t.uint32 place
  let server ← t.uint32 (place + 1)
  let database ← t.uint32 (place + 2)
  return { group, server, database }

def relation (kind : RelationKind) (t : Texts) : Except PathError Route := do
  let db ← database t 0
  let schema ← t.uint32 3
  let oid ← t.uint32 4
  return .relation kind db schema oid

def ofTexts (e : Endpoint) (t : Texts) : Except PathError Route :=
  match e with
  | .health => .ok .health
  | .start => .ok (.start (t.text 0))
  | .poll => .ok (.poll (t.text 0))
  | .fetch => .ok (.fetch (t.text 0))
  | .close => .ok (.close (t.text 0))
  | .openView => do
    let mode ← t.uint8 1
    let db ← database t 3
    let oid ← t.uint32 6
    return .openView (t.text 0) mode (t.text 2) db oid
  | .trigger => do
    let db ← database t 0
    let schema ← t.uint32 3
    let table ← t.uint32 4
    let trigger ← t.uint32 5
    return .trigger db schema table trigger
  | .table => relation .table t
  | .materializedView => relation .materializedView t

def route (e : Endpoint) (parameters : List Parameter) : Except PathError Route := do
  let texts ← parameters.mapM Parameter.text
  e.ofTexts texts

end Endpoint

end DbConsole.Http
