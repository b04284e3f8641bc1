import DbConsole.Text.Percent
import DbConsole.Text.Quoted

namespace DbConsole.Http

inductive PathError where
  | notText (parameter : String)
  | notNumber (place : Nat) (value : String) (bits : Nat)
deriving DecidableEq

namespace PathError

def message : PathError → String
  | .notText parameter => "Invalid URL: Invalid UTF-8 in `" ++ parameter ++ "`"
  | .notNumber place value bits =>
    "Invalid URL: Cannot parse value at index " ++ toString place ++ " with value `"
      ++ Text.quoted value ++ "` to a `u" ++ toString bits ++ "`"

end PathError

def isSchemeChar (c : Char) : Bool :=
  c.isAlphanum || c == '+' || c == '-' || c == '.' || c == '~'

def isHostEnd (c : Char) : Bool := c == '/' || c == '?' || c == '#'

/-- The target of a request without the scheme and the host, which it may name in front of its
path. -/
def withoutHost (target : List Char) : List Char :=
  match target.dropWhile isSchemeChar with
  | ':' :: '/' :: '/' :: rest => rest.dropWhile fun c => !isHostEnd c
  | _ => target

/-- The segments of the path of a request's target. What follows a question mark or a number sign is
no part of the path, which begins with a slash. -/
def segments? (uri : String) : Option (List String) :=
  match (withoutHost uri.toList).takeWhile fun c => c != '?' && c != '#' with
  | '/' :: rest => some ((rest.splitOn '/').map String.ofList)
  | _ => none

structure Parameter where
  name : String
  encoded : String

namespace Parameter

def text (p : Parameter) : Except PathError String :=
  match Text.percentDecode? p.encoded with
  | some s => .ok s
  | none => .error (.notText p.name)

end Parameter

abbrev Texts := List String

namespace Texts

def text (t : Texts) (place : Nat) : String := t[place]?.getD ""

def number (t : Texts) (bits place : Nat) : Except PathError Nat :=
  match Text.unsigned? (Nat.pow 2 bits) (t.text place) with
  | some n => .ok n
  | none => .error (.notNumber place (t.text place) bits)

def uint8 (t : Texts) (place : Nat) : Except PathError UInt8 :=
  (t.number 8 place).map UInt8.ofNat

def uint32 (t : Texts) (place : Nat) : Except PathError UInt32 :=
  (t.number 32 place).map UInt32.ofNat

end Texts

end DbConsole.Http
