import DbConsole.Decimal.Literal
import DbConsole.Json.Printer
import DbConsole.Text.Blank

namespace DbConsole

/-- A place on the number line, unless what was read is not a number. -/
def FloatReading.place? : FloatReading → Option Int
  | .number x => some x.place
  | .notANumber => none

namespace Json

def textPlace? (s : String) : Option Int := do
  let reading ← FloatReading.ofString? (Text.trim s)
  reading.place?

/-- The comparison that filters use. Nothing compares with `null`, a text compares with a number by
the number that it spells, and values of other different types compare by their texts. -/
def compare? (a b : Json) : Option Ordering :=
  match a, b with
  | .null, _ => none
  | _, .null => none
  | .number x, .number y => some (compare x.toBinary64.place y.toBinary64.place)
  | .number x, .string s => (textPlace? s).map fun p => compare x.toBinary64.place p
  | .string s, .number y => (textPlace? s).map fun p => compare p y.toBinary64.place
  | .string s, .string t => some (compare s t)
  | .bool x, .bool y => some (compare x y)
  | a, b => some (compare a.text b.text)

/-- Sorting puts booleans first, then numbers, texts, arrays and objects, and `null` last. -/
def sortRank : Json → Nat
  | .bool _ => 0
  | .number _ => 1
  | .string _ => 2
  | .array _ | .object _ => 3
  | .null => 4

def sortCompare (a b : Json) : Ordering :=
  match a, b with
  | .bool x, .bool y => compare x y
  | .number x, .number y => compare x.toBinary64.rank y.toBinary64.rank
  | .string s, .string t => compare s t
  | a, b => (compare a.sortRank b.sortRank).then (compare a.text b.text)

end Json

end DbConsole
