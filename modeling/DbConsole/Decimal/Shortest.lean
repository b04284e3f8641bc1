import DbConsole.Decimal.Binary64

namespace DbConsole

structure Decimal where
  digits : Nat
  exponent : Int
deriving DecidableEq

namespace Binary64

/-- The absolute value in quarters of the spacing above it, so that the ends of the interval that
rounds to it are whole: they lie two quarters away, or one quarter below a power of two. -/
structure Surroundings where
  low : Nat
  value : Nat
  high : Nat
  /-- Whether the two ends themselves round to the value. -/
  closed : Bool
  /-- A quarter is `num / den`. -/
  num : Nat
  den : Nat

def surroundings (x : Binary64) : Surroundings :=
  let m := x.significand
  let quarter := x.exponent - 2
  { low := if m = Nat.pow 2 52 ∧ Nat.pow 2 52 < x.magnitude then 4 * m - 1 else 4 * m - 2
    value := 4 * m
    high := 4 * m + 2
    closed := m % 2 = 0
    num := Nat.pow 2 quarter.toNat
    den := Nat.pow 2 (-quarter).toNat }

def decimalLength (n : Nat) : Nat := (Nat.toDigits 10 n).length

def decimalExponent (num den : Nat) : Int :=
  if den ≤ num then (decimalLength (num / den) : Int) - 1
  else -(decimalLength ((den + num - 1) / num - 1) : Int)

/-- The multiple of `10 ^ exponent` nearest to the value, if it lies in the interval. -/
def Surroundings.onGrid? (s : Surroundings) (exponent : Int) : Option Decimal :=
  let num := s.num * Nat.pow 10 (-exponent).toNat
  let den := s.den * Nat.pow 10 exponent.toNat
  let holds := fun c =>
    if s.closed then s.low * num ≤ c * den ∧ c * den ≤ s.high * num
    else s.low * num < c * den ∧ c * den < s.high * num
  let below := s.value * num / den
  let rest := s.value * num % den
  let above := decide (den < 2 * rest ∨ (den = 2 * rest ∧ below % 2 = 1))
  let nearer := if above then below + 1 else below
  let farther := if above then below else below + 1
  if holds nearer then some ⟨nearer, exponent⟩
  else if holds farther then some ⟨farther, exponent⟩
  else none

/-- The absolute value of a finite number in the fewest digits that round to it; of several such
numbers the nearest, and of two equally near the one with the even last digit. -/
def shortest (x : Binary64) : Decimal :=
  if x.magnitude = 0 then ⟨0, 0⟩
  else
    let s := x.surroundings
    let p := decimalExponent (s.value * s.num) s.den
    let found := (List.range 17).findSome? fun (k : Nat) => s.onGrid? (p - k)
    found.getD ⟨0, 0⟩

end Binary64

end DbConsole
