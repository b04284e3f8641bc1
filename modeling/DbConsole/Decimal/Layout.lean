import DbConsole.Decimal.Shortest

namespace DbConsole

structure Layout where
  /-- Least and greatest count of digits before the point in positional writing. -/
  leastPoint : Int
  greatestPoint : Int
  exponentMark : Char
  /-- Whether an exponent that is not negative has a plus sign. -/
  plusSign : Bool

/-- Numbers are written positionally from `1e-5` up to `1e16`, otherwise with an exponent. -/
def Layout.console : Layout := ⟨-4, 16, 'e', true⟩

namespace Layout

def zeros (n : Nat) : List Char := List.replicate n '0'

def positional (digits : List Char) (point : Int) : List Char :=
  if point ≤ 0 then ['0', '.'] ++ zeros (-point).toNat ++ digits
  else
    let n := point.toNat
    if digits.length ≤ n then digits ++ zeros (n - digits.length) ++ ['.', '0']
    else digits.take n ++ '.' :: digits.drop n

def scientific (layout : Layout) (digits : List Char) (point : Int) : List Char :=
  let exponent := point - 1
  let sign := if exponent < 0 then ['-'] else if layout.plusSign then ['+'] else []
  let fraction := if digits.length ≤ 1 then [] else '.' :: digits.tail
  digits.take 1 ++ fraction ++ layout.exponentMark :: sign ++ Nat.toDigits 10 exponent.natAbs

def significantDigits (digits : Nat) : List Char :=
  ((Nat.toDigits 10 digits).reverse.dropWhile (· == '0')).reverse

def write (layout : Layout) (x : Binary64) : List Char :=
  let sign := if x.negative then ['-'] else []
  if x.magnitude = 0 then sign ++ ['0', '.', '0']
  else
    let d := x.shortest
    let digits := significantDigits d.digits
    let point := (Binary64.decimalLength d.digits : Int) + d.exponent
    if layout.leastPoint ≤ point ∧ point ≤ layout.greatestPoint then sign ++ positional digits point
    else sign ++ layout.scientific digits point

end Layout

end DbConsole
