namespace DbConsole

/-- Magnitude of infinity: exponent bits all ones and fraction bits all zeros. -/
def infiniteMagnitude : Nat := 2047 * Nat.pow 2 52

/-- A floating point number of 64 bits, as a sign and the bit pattern without it, so that magnitudes
are ordered as the numbers they stand for. What is not a number has no place here. -/
structure Binary64 where
  negative : Bool
  magnitude : Nat
  magnitude_le : magnitude ≤ infiniteMagnitude

deriving instance DecidableEq for Binary64

def roundedQuotient (num den : Nat) : Nat :=
  let q := num / den
  let r := num % den
  if den < 2 * r ∨ (den = 2 * r ∧ q % 2 = 1) then q + 1 else q

/-- The exponent `e` with `2 ^ e ≤ num / den < 2 ^ (e + 1)`, for positive `num` and `den`. -/
def binaryExponent (num den : Nat) : Int :=
  let e : Int := (Nat.log2 num : Int) - Nat.log2 den
  if num * Nat.pow 2 (-e).toNat < den * Nat.pow 2 e.toNat then e - 1 else e

/-- The magnitude nearest to `num / den`. Units are `2 ^ (e - 52)`, where `e` is the exponent of the
quotient or the least exponent of all, and `2 ^ 52` units are one step of the exponent. -/
def nearestMagnitude (num den : Nat) : Nat :=
  if num = 0 then 0
  else
    let e := max (binaryExponent num den) (-1022)
    let shift := 52 - e
    let units := roundedQuotient (num * Nat.pow 2 shift.toNat) (den * Nat.pow 2 (-shift).toNat)
    min ((e + 1022).toNat * Nat.pow 2 52 + units) infiniteMagnitude

theorem nearestMagnitude_le (num den : Nat) : nearestMagnitude num den ≤ infiniteMagnitude := by
  unfold nearestMagnitude
  split
  · exact Nat.zero_le _
  · exact Nat.min_le_right _ _

namespace Binary64

def zero (negative : Bool) : Binary64 := ⟨negative, 0, Nat.zero_le _⟩

def infinity (negative : Bool) : Binary64 := ⟨negative, infiniteMagnitude, Nat.le_refl _⟩

instance : Inhabited Binary64 := ⟨zero false⟩

def IsFinite (x : Binary64) : Prop := x.magnitude < infiniteMagnitude

instance (x : Binary64) : Decidable x.IsFinite := inferInstanceAs (Decidable (_ < _))

def ofRatio (negative : Bool) (num den : Nat) : Binary64 :=
  ⟨negative, nearestMagnitude num den, nearestMagnitude_le num den⟩

def ofInt (n : Int) : Binary64 := ofRatio (n < 0) n.natAbs 1

/-- A finite number is `significand * 2 ^ exponent`, its sign apart. -/
def significand (x : Binary64) : Nat :=
  let fraction := x.magnitude % Nat.pow 2 52
  if x.magnitude < Nat.pow 2 52 then fraction else Nat.pow 2 52 + fraction

def exponent (x : Binary64) : Int :=
  max (x.magnitude / Nat.pow 2 52 : Nat) 1 - 1075

def ratio (x : Binary64) : Nat × Nat :=
  (x.significand * Nat.pow 2 x.exponent.toNat, Nat.pow 2 (-x.exponent).toNat)

def neg (x : Binary64) : Binary64 := { x with negative := !x.negative }

def mul (x y : Binary64) : Binary64 :=
  ofRatio (x.negative != y.negative) (x.ratio.1 * y.ratio.1) (x.ratio.2 * y.ratio.2)

def div (x y : Binary64) : Binary64 :=
  ofRatio (x.negative != y.negative) (x.ratio.1 * y.ratio.2) (x.ratio.2 * y.ratio.1)

/-- A place on the number line: the two zeros share one. -/
def place (x : Binary64) : Int := if x.negative then -x.magnitude else x.magnitude

/-- A place of its own for every number: the negative zero stands right below the positive one. -/
def rank (x : Binary64) : Int := if x.negative then -x.magnitude - 1 else x.magnitude

end Binary64

end DbConsole
