import DbConsole.Catalog.Relation
import DbConsole.Json.Printer

namespace DbConsole

inductive BadRequest where
  | unknownViewMode (code : UInt8)
  | malformedBody
  | emptyTriggerName
  | unknownParameter (name : String)
  | parameterValue (name : String) (value : Json)
  | noStorage (kind : RelationKind) (relation : String)
  | reported (reason : String)

namespace BadRequest

def message : BadRequest → String
  | .unknownViewMode code => s!"unknown view mode {code}"
  | .malformedBody => "invalid request body: "
  | .emptyTriggerName => "trigger name must not be empty"
  | .unknownParameter name => s!"unrecognized parameter \"{name}\""
  | .parameterValue name value => s!"invalid value for parameter \"{name}\": {value.text}"
  | .noStorage kind relation => s!"{kind.text} \"{relation}\" has no storage parameters"
  | .reported reason => reason

end BadRequest

end DbConsole
