import DbConsole.Text.Numeral

namespace DbConsole.Text

def hexByte? (high low : UInt8) : Option UInt8 := do
  let h ← hexDigit? (Char.ofUInt8 high)
  let l ← hexDigit? (Char.ofUInt8 low)
  return UInt8.ofNat (16 * h + l)

/-- A percent sign that two hexadecimal digits do not follow stands for itself. -/
def percentBytes : List UInt8 → List UInt8
  | 0x25 :: high :: low :: rest =>
    match hexByte? high low with
    | some b => b :: percentBytes rest
    | none => 0x25 :: percentBytes (high :: low :: rest)
  | b :: rest => b :: percentBytes rest
  | [] => []

def percentDecode? (s : String) : Option String :=
  String.fromUTF8? (percentBytes s.toUTF8.toList).toByteArray

end DbConsole.Text
