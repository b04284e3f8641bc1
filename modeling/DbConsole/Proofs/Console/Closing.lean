import DbConsole.Proofs.Console.Connections
import DbConsole.Proofs.Console.Lifecycle
import DbConsole.Proofs.Console.Registration
import DbConsole.Proofs.View.Rest

namespace DbConsole

namespace Console

variable {c c' : Console} {h : Handle} {s s' : Session} {id : String} {step : Step}

end Console

end DbConsole
