namespace DbConsole

namespace Sql

def isLower (c : Char) : Bool := 'a' ≤ c && c ≤ 'z'

def isNameStart (c : Char) : Bool := isLower c || c == '_'

def isNameChar (c : Char) : Bool := isNameStart c || ('0' ≤ c && c ≤ '9')

/-- A name that is written as it is: lower-case letters, digits and underscores, the first character
not a digit. -/
def isPlain : List Char → Bool
  | [] => false
  | c :: rest => isNameStart c && rest.all isNameChar

/-- The text between two `quote` characters, each one inside doubled. -/
def enclose (quote : Char) (s : List Char) : List Char :=
  quote :: s.flatMap (fun c => if c = quote then [c, c] else [c]) ++ [quote]

def identChars (s : List Char) : List Char := if isPlain s then s else enclose '"' s

def ident (name : String) : String := String.ofList (identChars name.toList)

def literal (value : String) : String := String.ofList (enclose '\x27' value.toList)

end Sql

structure QualifiedName where
  schema : String
  name : String
deriving DecidableEq, Inhabited

namespace QualifiedName

def sql (q : QualifiedName) : String := Sql.ident q.schema ++ "." ++ Sql.ident q.name

end QualifiedName

end DbConsole
