import DbConsole.Text.Numeral

namespace DbConsole.Session

def replaceBits (n low width value : Nat) : Nat :=
  n % Nat.pow 2 low + value * Nat.pow 2 low
    + n / Nat.pow 2 (low + width) * Nat.pow 2 (low + width)

/-- The session id for 128 random bits: the kind 4 stands in bits 76 to 79, the variant in bits 62
and 63. -/
def freshId (random : Nat) : String :=
  String.ofList (Text.hexDigits 32 (replaceBits (replaceBits random 76 4 4) 62 2 2))

end DbConsole.Session
