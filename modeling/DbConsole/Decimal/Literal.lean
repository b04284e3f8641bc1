import DbConsole.Decimal.Binary64
import DbConsole.Text.Numeral

namespace DbConsole

inductive FloatReading where
  | number (x : Binary64)
  | notANumber
deriving DecidableEq

namespace FloatReading

open Text

/-- The number nearest to `digits * 10 ^ exponent`. The exponents that are certainly too large or
too small are settled first, so that no power is larger than the digits call for. -/
def nearest (negative : Bool) (digits : Nat) (exponent : Int) : Binary64 :=
  let point := exponent + (Nat.toDigits 10 digits).length
  if digits = 0 ∨ point < -330 then .zero negative
  else if 310 < point then .infinity negative
  else .ofRatio negative (digits * Nat.pow 10 exponent.toNat) (Nat.pow 10 (-exponent).toNat)

def exponent? : List Char → Option Int
  | [] => some 0
  | mark :: rest =>
    if mark = 'e' ∨ mark = 'E' then
      match rest with
      | '-' :: digits => (natural? digits).map fun n => -n
      | '+' :: digits => (natural? digits).map fun n => n
      | digits => (natural? digits).map fun n => n
    else none

def finite? (negative : Bool) (s : List Char) : Option FloatReading := do
  let whole := s.takeWhile isDigit
  let rest := s.dropWhile isDigit
  let (fraction, rest) := match rest with
    | '.' :: more => (more.takeWhile isDigit, more.dropWhile isDigit)
    | _ => ([], rest)
  guard (whole ≠ [] ∨ fraction ≠ [])
  let e ← exponent? rest
  return .number (nearest negative (appendDigits (appendDigits 0 whole) fraction)
    (e - fraction.length))

def unsigned? (negative : Bool) (s : List Char) : Option FloatReading :=
  match String.ofList (s.map Char.toLower) with
  | "inf" => some (.number (.infinity negative))
  | "infinity" => some (.number (.infinity negative))
  | "nan" => some .notANumber
  | _ => finite? negative s

/-- Reads a text that is a number from its first character to its last: an optional sign, then
digits with an optional point and an optional exponent, or one of the words `inf`, `infinity` and
`nan` in either case. -/
def ofString? (s : String) : Option FloatReading :=
  match s.toList with
  | '-' :: rest => unsigned? true rest
  | '+' :: rest => unsigned? false rest
  | all => unsigned? false all

end FloatReading

end DbConsole
