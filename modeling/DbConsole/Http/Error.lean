import DbConsole.Update.Error
import DbConsole.View.Error

namespace DbConsole

inductive ConsoleError where
  | view (e : ViewError)
  | badRequest (e : BadRequest)
  | catalog (e : CatalogError)

namespace ConsoleError

def message : ConsoleError → String
  | .view e => e.message
  | .badRequest e => e.message
  | .catalog e => e.message

def status : ConsoleError → Nat
  | .view (.invalidTarget _) => 404
  | .view (.unknownSession _) => 404
  | .view (.invalidState ..) => 409
  | .view (.duplicateSession _) => 409
  | .view (.invalidFilter _) => 400
  | .view (.connection _) => 503
  | .badRequest _ => 400
  | .catalog (.connectionFailed _) => 503
  | .catalog e => if e.leadsNowhere then 410 else 500

end ConsoleError

end DbConsole
