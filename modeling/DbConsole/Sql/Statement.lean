import DbConsole.Catalog.Relation

namespace DbConsole

inductive CommentTarget where
  | relation (oid : Oid) (kind : RelationKind) (name : QualifiedName)
  | trigger (oid : Oid) (name : String) (table : QualifiedName)
deriving DecidableEq, Inhabited

namespace CommentTarget

def sql : CommentTarget → String
  | .relation _ kind name => kind.keyword ++ " " ++ name.sql
  | .trigger _ name table => "TRIGGER " ++ Sql.ident name ++ " ON " ++ table.sql

end CommentTarget

/-- Statements name the object that they change by its number, which is what is applied, and by its
name, which is what is written. -/
inductive Statement where
  /-- No comment removes the one that is there. -/
  | comment (target : CommentTarget) (text : Option String)
  | setTriggerMode (oid : Oid) (trigger : String) (table : QualifiedName) (mode : TriggerMode)
  | renameTrigger (oid : Oid) (table : QualifiedName) (old new : String)
  | setOptions (oid : Oid) (kind : RelationKind) (relation : QualifiedName)
      (options : List (String × String))
  | resetOptions (oid : Oid) (kind : RelationKind) (relation : QualifiedName)
      (options : List String)
deriving DecidableEq, Inhabited

namespace Statement

def sql : Statement → String
  | .comment target text =>
    "COMMENT ON " ++ target.sql ++ " IS " ++ (text.map Sql.literal).getD "NULL" ++ ";"
  | .setTriggerMode _ trigger table mode =>
    "ALTER TABLE " ++ table.sql ++ " " ++ mode.clause ++ " TRIGGER " ++ Sql.ident trigger ++ ";"
  | .renameTrigger _ table old new =>
    "ALTER TRIGGER " ++ Sql.ident old ++ " ON " ++ table.sql ++ " RENAME TO " ++ Sql.ident new
      ++ ";"
  | .setOptions _ kind relation options =>
    "ALTER " ++ kind.keyword ++ " " ++ relation.sql ++ " SET ("
      ++ ", ".intercalate (options.map fun (name, value) => name ++ " = " ++ value) ++ ");"
  | .resetOptions _ kind relation options =>
    "ALTER " ++ kind.keyword ++ " " ++ relation.sql ++ " RESET (" ++ ", ".intercalate options
      ++ ");"

end Statement

end DbConsole
