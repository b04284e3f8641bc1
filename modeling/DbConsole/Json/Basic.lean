import DbConsole.Decimal.Binary64
import DbConsole.SortedMap

namespace DbConsole

/-- The two kinds stay apart: `1` and `1.0` are different values. -/
inductive Number where
  | int (n : Int)
  | float (x : Binary64) (finite : x.IsFinite)
deriving DecidableEq

def Number.toBinary64 : Number → Binary64
  | .int n => .ofInt n
  | .float x _ => x

/-- The members of an object stand in the order of their keys, each key once, in every object that a
reader builds. -/
inductive Json where
  | null
  | bool (b : Bool)
  | number (n : Number)
  | string (s : String)
  | array (items : List Json)
  | object (members : List (String × Json))

namespace Json

instance : Inhabited Json := ⟨.null⟩

def isNull : Json → Bool
  | .null => true
  | _ => false

def nat (n : Nat) : Json := .number (.int n)

def uint32 (n : UInt32) : Json := .nat n.toNat

def strings (l : List String) : Json := .array (l.map .string)

def option {α : Type} (encode : α → Json) : Option α → Json
  | none => .null
  | some a => encode a

/-- An object with the given members; of several members with one key the last is kept. -/
def ofMembers (members : List (String × Json)) : Json :=
  .object (members.foldl (fun l m => SortedMap.insertEntry m.1 m.2 l) [])

def get? (j : Json) (key : String) : Option Json :=
  match j with
  | .object members => members.lookup key
  | _ => none

end Json

end DbConsole
