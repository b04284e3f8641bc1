import DbConsole.Catalog.Relation

namespace DbConsole

inductive Duplicate where
  | schema (name : String)
  | relation (name : String)
  | trigger (name table : String)
  | reported (what : String)
deriving DecidableEq

namespace Duplicate

def text : Duplicate → String
  | .schema name => s!"schema \"{name}\""
  | .relation name => s!"relation \"{name}\""
  | .trigger name table => s!"trigger \"{name}\" for relation \"{table}\""
  | .reported what => what

end Duplicate

inductive ConnectFailure where
  | notAccepting (server : String)
  | reported (reason : String)
deriving DecidableEq

namespace ConnectFailure

def text : ConnectFailure → String
  | .notAccepting server => s!"server \"{server}\" is not accepting connections"
  | .reported reason => reason

end ConnectFailure

inductive Refusal where
  | unknownDatabase (name : String)
  | wrongKind (relation : String) (expected : RelationKind)
  | notTable (relation : String)
  | noStorage (kind : RelationKind) (relation : String)
  | wrongLength (given : Nat) (relation : String) (columns : Nat)
  | nullValue (column : String)
  | duplicateKey (relation : String)
  | notPopulated (view : String)
  | reported (reason : String)
deriving DecidableEq

namespace Refusal

def text : Refusal → String
  | .unknownDatabase name => s!"database \"{name}\" does not exist"
  | .wrongKind relation expected => s!"\"{relation}\" is not a {expected.text}"
  | .notTable relation => s!"\"{relation}\" is not a table"
  | .noStorage kind relation => s!"cannot set storage parameters on {kind.text} \"{relation}\""
  | .wrongLength given relation columns =>
    s!"INSERT has {given} expressions but \"{relation}\" has {columns} columns"
  | .nullValue column => s!"null value in column \"{column}\" violates not-null constraint"
  | .duplicateKey relation =>
    s!"duplicate key value violates unique constraint \"{relation}_pkey\""
  | .notPopulated view => s!"materialized view \"{view}\" has not been populated"
  | .reported reason => reason

end Refusal

/-- Why a catalog or a connection refuses. `reported` carries the wording of a failure that arises
outside the catalog. -/
inductive CatalogError where
  | groupNotFound (group : UInt32)
  | serverNotFound (server : UInt32)
  | databaseNotFound (database : UInt32)
  | schemaNotFound (name : String)
  | objectNotFound (oid : Oid)
  | connectionFailed (failure : ConnectFailure)
  | undefinedColumn (name : String)
  | duplicate (what : Duplicate)
  | refused (refusal : Refusal)
deriving DecidableEq

namespace CatalogError

def message : CatalogError → String
  | .groupNotFound group => s!"Server group {group} not found"
  | .serverNotFound server => s!"Server {server} not found"
  | .databaseNotFound database => s!"Database {database} not found"
  | .schemaNotFound name => s!"Schema \"{name}\" does not exist"
  | .objectNotFound oid => s!"Could not find the object {oid}"
  | .connectionFailed failure => "Connection failed: " ++ failure.text
  | .undefinedColumn name => s!"column \"{name}\" does not exist"
  | .duplicate what => what.text ++ " already exists"
  | .refused refusal => refusal.text

def leadsNowhere : CatalogError → Bool
  | .groupNotFound _ | .serverNotFound _ | .databaseNotFound _ | .schemaNotFound _
  | .objectNotFound _ => true
  | .connectionFailed _ | .undefinedColumn _ | .duplicate _ | .refused _ => false

end CatalogError

end DbConsole
