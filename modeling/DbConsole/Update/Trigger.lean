import DbConsole.Sql.Statement
import DbConsole.Text.Blank
import DbConsole.Update.Error

namespace DbConsole

/-- What is not given stays as it is. -/
structure TriggerUpdate where
  name : Option String
  /-- The empty text removes the comment. -/
  description : Option String
  mode : Option TriggerMode
deriving DecidableEq, Inhabited

namespace TriggerUpdate

def finalName (u : TriggerUpdate) (t : Trigger) : String := u.name.getD t.name

def renameStatements (u : TriggerUpdate) (t : Trigger) : List Statement :=
  if u.finalName t = t.name then [] else [.renameTrigger t.oid t.table t.name (u.finalName t)]

def commentStatements (u : TriggerUpdate) (t : Trigger) : List Statement :=
  u.description.toList.map fun text =>
    .comment (.trigger t.oid (u.finalName t) t.table) (if text = "" then none else some text)

def modeStatements (u : TriggerUpdate) (t : Trigger) : List Statement :=
  (u.mode.filter (· ≠ t.mode)).toList.map fun mode =>
    .setTriggerMode t.oid (u.finalName t) t.table mode

/-- The statements that carry out an update. The new name comes first, since those after it use
it. -/
def statements (u : TriggerUpdate) (t : Trigger) : Except BadRequest (List Statement) :=
  if u.name.any Text.isBlankText then .error .emptyTriggerName
  else .ok (u.renameStatements t ++ u.commentStatements t ++ u.modeStatements t)

end TriggerUpdate

end DbConsole
