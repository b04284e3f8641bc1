import DbConsole.Json.Basic
import DbConsole.Text.Numeral

namespace DbConsole

open Text

/-- The parts of a literal: digits before and after the point, and the exponent with its sign. -/
structure Numeral where
  negative : Bool
  whole : List Char
  fraction : List Char
  exponent : Option (Bool × List Char)

namespace Numeral

def isWhole : List Char → Bool
  | [] => false
  | ['0'] => true
  | c :: rest => c != '0' && isDigit c && rest.all isDigit

def isDigits (s : List Char) : Bool := s != [] && s.all isDigit

def exponentDigits? : List Char → Option (Bool × List Char)
  | '-' :: digits => if isDigits digits then some (true, digits) else none
  | '+' :: digits => if isDigits digits then some (false, digits) else none
  | digits => if isDigits digits then some (false, digits) else none

def ofChars? (s : List Char) : Option Numeral := do
  let (negative, s) := match s with
    | '-' :: rest => (true, rest)
    | _ => (false, s)
  let mantissa := s.takeWhile fun c => c != 'e' && c != 'E'
  let exponent ← match s.dropWhile fun c => c != 'e' && c != 'E' with
    | [] => some none
    | _ :: rest => (exponentDigits? rest).map some
  let whole := mantissa.takeWhile (· != '.')
  let fraction ← match mantissa.dropWhile (· != '.') with
    | [] => some []
    | _ :: digits => if isDigits digits then some digits else none
  guard (isWhole whole)
  return ⟨negative, whole, fraction, exponent⟩

def pushDigit? (n : Nat) (c : Char) : Option Nat :=
  let next := 10 * n + (digit? c).getD 0
  if next < UInt64.size then some next else none

/-- Reads digits before the point. From the first one that does not fit they are only counted. -/
def readWhole (n : Nat) : List Char → Nat × Nat
  | [] => (n, 0)
  | c :: rest =>
    match pushDigit? n c with
    | some next => readWhole next rest
    | none => (n, rest.length + 1)

def readFraction (n : Nat) : List Char → Nat × Nat
  | [] => (n, 0)
  | c :: rest =>
    match pushDigit? n c with
    | some next =>
      let (m, read) := readFraction next rest
      (m, read + 1)
    | none => (n, 0)

def tenTo (n : Nat) : Binary64 := .ofRatio false (Nat.pow 10 n) 1

/-- Divides by `10 ^ 308` as often as told, unless nothing is left before that. -/
def divideDown (x : Binary64) : Nat → Binary64
  | 0 => x
  | times + 1 => if x.magnitude = 0 then x else divideDown (x.div (tenTo 308)) times

/-- `x * 10 ^ exponent`, in as few multiplications or divisions as powers up to `10 ^ 308` allow. -/
def scale? (x : Binary64) (exponent : Int) : Option Binary64 :=
  if x.magnitude = 0 then some x
  else if 308 < exponent then none
  else if 0 ≤ exponent then
    let y := x.mul (tenTo exponent.toNat)
    if y.IsFinite then some y else none
  else
    let places := (-exponent).toNat
    let times := (places - 1) / 308
    some ((divideDown x times).div (tenTo (places - 308 * times)))

def greatestExponent : Nat := Nat.pow 2 31 - 1

def finite? (x : Binary64) : Option Number :=
  if h : x.IsFinite then some (.float x h) else none

def toFloat? (negative : Bool) (significand : Nat) (shift : Int)
    (exponent : Option (Bool × List Char)) : Option Number := do
  let x := Binary64.ofInt significand
  let size ← match exponent with
    | none => scale? x shift
    | some (down, digits) =>
      let e := appendDigits 0 digits
      if greatestExponent < e then
        if significand = 0 ∨ down then some (.zero false) else none
      else scale? x (if down then shift - e else shift + e)
  finite? { size with negative := negative }

/-- A literal without point and exponent is a whole number if it lies from `-2 ^ 63` to below
`2 ^ 64` and is not `-0`. Of every other literal the leading digits, as far as they fit in 64 bits,
are rounded to a floating point number, which is then multiplied or divided by a power of ten. -/
def toNumber? (l : Numeral) : Option Number :=
  let (n, skipped) := readWhole 0 l.whole
  if l.fraction = [] ∧ l.exponent = none ∧ skipped = 0 then
    if ¬ l.negative then some (.int n)
    else if 0 < n ∧ n ≤ Nat.pow 2 63 then some (.int (-n))
    else finite? (Binary64.ofInt n).neg
  else
    let (m, read) := readFraction n l.fraction
    toFloat? l.negative m (skipped - read) l.exponent

end Numeral

end DbConsole
