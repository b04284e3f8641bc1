import DbConsole.View.Scope

namespace DbConsole

inductive TargetFailure where
  | notFound (e : CatalogError)
  | otherKind (name : QualifiedName) (actual : RelationKind) (wanted : ObjectKind)
  | unsupportedKind (text : String)
  | reported (reason : String)
deriving DecidableEq

namespace TargetFailure

def text : TargetFailure → String
  | .notFound e => e.message
  | .otherKind name actual wanted => s!"{name.sql} is a {actual.text}, not a {wanted.text}"
  | .unsupportedKind text => s!"unsupported object type \"{text}\""
  | .reported reason => reason

end TargetFailure

inductive FilterFailure where
  | missing
  | unexpected
  | unknownColumn (name : String)
  | reported (reason : String)
deriving DecidableEq

namespace FilterFailure

def text : FilterFailure → String
  | .missing => "filtered view requires at least one condition"
  | .unexpected => "filter is only accepted for filtered view"
  | .unknownColumn name => s!"column \"{name}\" does not exist"
  | .reported reason => reason

end FilterFailure

inductive Phase where
  | initialized
  | running
  | completed
  | failed
deriving DecidableEq, Inhabited

namespace Phase

def text : Phase → String
  | .initialized => "Initialized"
  | .running => "Running"
  | .completed => "Completed"
  | .failed => "Failed"

def isFinal : Phase → Bool
  | .completed | .failed => true
  | .initialized | .running => false

end Phase

inductive ViewError where
  | invalidTarget (failure : TargetFailure)
  | unknownSession (id : String)
  | invalidState (id : String) (actual expected : Phase)
  | duplicateSession (id : String)
  | invalidFilter (failure : FilterFailure)
  | connection (e : CatalogError)
deriving DecidableEq

namespace ViewError

def message : ViewError → String
  | .invalidTarget failure => "Could not find the object: " ++ failure.text
  | .unknownSession id => s!"Transaction ID {id} not found in the session"
  | .invalidState id actual expected =>
    s!"Transaction ID {id} is {actual.text}, expected {expected.text}"
  | .duplicateSession id => s!"Transaction ID {id} is already in use"
  | .invalidFilter failure => "Invalid filter: " ++ failure.text
  | .connection e => "Could not connect to the database: " ++ e.message

/-- An error on the way to the target: either the target is not there, or the way is closed. -/
def ofCatalog (e : CatalogError) : ViewError :=
  if e.leadsNowhere then .invalidTarget (.notFound e) else .connection e

end ViewError

end DbConsole
