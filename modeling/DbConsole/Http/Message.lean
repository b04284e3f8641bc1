import DbConsole.Http.Error
import DbConsole.Json.Basic
import DbConsole.Wire.View

namespace DbConsole.Http

structure Request where
  method : String
  uri : String
  body : String
deriving DecidableEq, Inhabited

inductive Body where
  | empty
  | json (j : Json)
  | text (s : String)

structure Response where
  status : Nat
  body : Body

namespace Response

def empty (status : Nat) : Response := ⟨status, .empty⟩

/-- What `HEAD` gets in place of the response to `GET`. -/
def headOnly (r : Response) : Response := .empty r.status

end Response

def envelope (success : Nat) (message : String) (data : Json) : Json :=
  .object [("data", data), ("errormsg", .string message), ("info", .string ""),
    ("result", .null), ("success", .nat success)]

namespace Response

def success (data : Json) : Response := ⟨200, .json (envelope 1 "" data)⟩

def failure (e : ConsoleError) : Response := ⟨e.status, .json (envelope 0 e.message .null)⟩

def node (oid : Oid) (type label : String) : Response :=
  ⟨200, .json (.object [
    ("node", .object [("_id", .uint32 oid), ("_type", .string type), ("label", .string label)]),
    ("success", .nat 1)])⟩

def ofExcept {ε α : Type} (data : α → Json) (error : ε → ConsoleError) : Except ε α → Response
  | .ok a => .success (data a)
  | .error e => .failure (error e)

end Response

def rowsJson (rows : List Row) : Json := .array (rows.map .array)

/-- Rows are counted from one here, so that a page with rows begins one higher. -/
def pageMembers (p : Page) : List (String × Json) :=
  [("has_more_rows", .bool p.hasMore), ("rows", rowsJson p.rows),
    ("rows_fetched_from", .nat (if p.rows = [] then p.start else p.start + 1)),
    ("rows_fetched_to", .nat p.stop)]

def noPage : Page := ⟨[], 0, 0, false⟩

def statusText : Phase → String
  | .initialized => "Initialized"
  | .running => "Busy"
  | .completed => "Success"
  | .failed => "Error"

def columnType (columns : List ResultColumn) (name : String) : String :=
  ((columns.find? (·.name = name)).map (·.typeName)).getD ""

def pollJson (s : Progress) : Json :=
  let summary := s.state.summary?
  let columns := summary.elim [] (·.columns)
  let keys := summary.elim [] (·.primaryKey)
  let affected := match s.state with
    | .completed summary => summary.rowCount
    | _ => 0
  .ofMembers ([("status", .string (statusText s.state.phase)),
      ("result", .option (fun s => .string s.status) summary),
      ("rows_affected", .nat affected),
      ("colinfo", .array (columns.map (·.toJson))),
      ("primary_keys", .ofMembers (keys.map fun k => (k, .string (columnType columns k))))]
    ++ pageMembers (s.page.getD noPage)
    ++ (summary.map fun _ => ("elapsed_ms", .nat 0)).toList)

def fetchJson (p : Page) : Json := .ofMembers (pageMembers p)

end DbConsole.Http
