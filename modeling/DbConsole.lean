import DbConsole.Proofs.Console.Closing
import DbConsole.Proofs.Console.Execution
import DbConsole.Proofs.Console.Failures
import DbConsole.Proofs.Console.Fulfilment
import DbConsole.Proofs.Console.Inserts
import DbConsole.Proofs.Console.Isolation
import DbConsole.Proofs.Console.Keys
import DbConsole.Proofs.Console.Outcome
import DbConsole.Proofs.Console.Paging
import DbConsole.Proofs.Console.Payloads
import DbConsole.Proofs.Console.Properties
import DbConsole.Proofs.Console.Queries
import DbConsole.Proofs.Console.Repeats
import DbConsole.Proofs.Console.Triggers
import DbConsole.Proofs.Console.Verdict
import DbConsole.Proofs.Console.Views
import DbConsole.Proofs.Query.Conditions
import DbConsole.Proofs.Query.Whole
import DbConsole.Proofs.Sql.Reading
import DbConsole.Proofs.Sql.Select
import DbConsole.Proofs.Update.Statements
import DbConsole.Proofs.View.Modes
import DbConsole.Proofs.Wire.Sql
import DbConsole.Settings
