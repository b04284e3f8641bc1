import DbConsole.Text.Numeral
import DbConsole.Text.Visible

namespace DbConsole.Text

def hexNumeral (n : Nat) : List Char :=
  match (hexDigits 8 n).dropWhile (· == '0') with
  | [] => ['0']
  | digits => digits

def quotedChar (c : Char) : List Char :=
  match c with
  | '\x00' => ['\\', '0']
  | '\t' => ['\\', 't']
  | '\r' => ['\\', 'r']
  | '\n' => ['\\', 'n']
  | '"' => ['\\', '"']
  | '\\' => ['\\', '\\']
  | _ =>
    if isVisible c then [c] else ['\\', 'u', '\x7b'] ++ hexNumeral c.toNat ++ ['\x7d']

/-- A piece of a request as error messages show it. -/
def quoted (s : String) : String :=
  String.ofList ('"' :: s.toList.flatMap quotedChar ++ ['"'])

end DbConsole.Text
