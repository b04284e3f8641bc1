import DbConsole.Text.Blank
import DbConsole.Text.Numeral

namespace DbConsole

structure Settings where
  address : String := "0.0.0.0:5050"
  fetchBatch : Nat := 1000
  idleTimeout : Nat := 1800
  reapInterval : Nat := 60
deriving DecidableEq, Inhabited

namespace Settings

/-- A positive number of 64 bits, blanks around it or not; anything else is the default. -/
def positive (default : Nat) (text : Option String) : Nat :=
  let n := do
    let text ← text
    Text.unsigned? UInt64.size (Text.trim text)
  match n with
  | some (n + 1) => n + 1
  | _ => default

def ofVariables (lookup : String → Option String) : Settings :=
  let default : Settings := {}
  { address := (lookup "DATAGRID_ADDR").getD default.address
    fetchBatch := positive default.fetchBatch (lookup "DATAGRID_FETCH_BATCH")
    idleTimeout := positive default.idleTimeout (lookup "DATAGRID_IDLE_TIMEOUT_SECS")
    reapInterval := positive default.reapInterval (lookup "DATAGRID_REAP_INTERVAL_SECS") }

end Settings

end DbConsole
