import DbConsole.Json.Numeral

namespace DbConsole

/-- A string or a number may be well formed and still have no value: half of a surrogate pair on its
own, or a number out of range. Such a token is kept, since a reader may skip it. -/
inductive Token where
  | openArray
  | closeArray
  | openObject
  | closeObject
  | comma
  | colon
  | null
  | bool (b : Bool)
  | number (n : Option Number)
  | string (s : Option String)

namespace Token

open Text

/-- What stands between the quotes of a string: characters, and code units given by number. -/
inductive Piece where
  | char (c : Char)
  | unit (n : Nat)

def isHighSurrogate (n : Nat) : Bool := 0xD800 ≤ n && n < 0xDC00

def isLowSurrogate (n : Nat) : Bool := 0xDC00 ≤ n && n < 0xE000

def joinPieces? : List Piece → Option (List Char)
  | [] => some []
  | .char c :: rest => (joinPieces? rest).map (c :: ·)
  | .unit high :: .unit low :: rest =>
    if isHighSurrogate high then
      if isLowSurrogate low then
        (joinPieces? rest).map
          (Char.ofNat (0x10000 + (high - 0xD800) * 0x400 + (low - 0xDC00)) :: ·)
      else none
    else if isLowSurrogate high then none
    else (joinPieces? (.unit low :: rest)).map (Char.ofNat high :: ·)
  | .unit n :: rest =>
    if isHighSurrogate n || isLowSurrogate n then none
    else (joinPieces? rest).map (Char.ofNat n :: ·)

/-- Where the scanner stands; pieces and characters are collected last first. -/
inductive Scan where
  | between
  | string (pieces : List Piece)
  | escape (pieces : List Piece)
  | unicode (pieces : List Piece) (digits value : Nat)
  | number (chars : List Char)
  | word (chars : List Char)

def isBlank (c : Char) : Bool := c == ' ' || c == '\t' || c == '\n' || c == '\r'

def isNumberChar (c : Char) : Bool :=
  isDigit c || c == '-' || c == '+' || c == '.' || c == 'e' || c == 'E'

def ofString (pieces : List Piece) : Token :=
  .string ((joinPieces? pieces.reverse).map String.ofList)

def ofNumber? (chars : List Char) : Option Token :=
  (Numeral.ofChars? chars.reverse).map fun l => .number l.toNumber?

def ofWord? (chars : List Char) : Option Token :=
  match String.ofList chars.reverse with
  | "null" => some .null
  | "true" => some (.bool true)
  | "false" => some (.bool false)
  | _ => none

def escaped? : Char → Option Char
  | '"' => some '"'
  | '\\' => some '\\'
  | '/' => some '/'
  | 'b' => some '\x08'
  | 'f' => some '\x0c'
  | 'n' => some '\n'
  | 'r' => some '\r'
  | 't' => some '\t'
  | _ => none

def start? (c : Char) : Option (List Token × Scan) :=
  if isBlank c then some ([], .between)
  else if c == '"' then some ([], .string [])
  else if c == '-' || isDigit c then some ([], .number [c])
  else if c.isAlpha then some ([], .word [c])
  else match c with
    | '[' => some ([.openArray], .between)
    | ']' => some ([.closeArray], .between)
    | '\x7b' => some ([.openObject], .between)
    | '\x7d' => some ([.closeObject], .between)
    | ',' => some ([.comma], .between)
    | ':' => some ([.colon], .between)
    | _ => none

def step? : Scan → Char → Option (List Token × Scan)
  | .between, c => start? c
  | .string pieces, c =>
    if c == '"' then some ([ofString pieces], .between)
    else if c == '\\' then some ([], .escape pieces)
    else if c.toNat < 0x20 then none
    else some ([], .string (.char c :: pieces))
  | .escape pieces, c =>
    if c == 'u' then some ([], .unicode pieces 0 0)
    else (escaped? c).map fun e => ([], .string (.char e :: pieces))
  | .unicode pieces digits value, c => do
    let value := 16 * value + (← hexDigit? c)
    return ([], if digits = 3 then .string (.unit value :: pieces)
      else .unicode pieces (digits + 1) value)
  | .number chars, c =>
    if isNumberChar c then some ([], .number (c :: chars))
    else do
      let token ← ofNumber? chars
      let (tokens, scan) ← start? c
      return (token :: tokens, scan)
  | .word chars, c =>
    if c.isAlpha then some ([], .word (c :: chars))
    else do
      let token ← ofWord? chars
      let (tokens, scan) ← start? c
      return (token :: tokens, scan)

def finish? : Scan → Option (List Token)
  | .between => some []
  | .number chars => (ofNumber? chars).map fun t => [t]
  | .word chars => (ofWord? chars).map fun t => [t]
  | _ => none

/-- Tokens of `chars` in front of which stand the tokens `before`, last first. -/
def scan? (before : List Token) (state : Scan) : List Char → Option (List Token)
  | [] => (finish? state).map fun last => before.reverse ++ last
  | c :: rest =>
    match step? state c with
    | none => none
    | some (tokens, next) => scan? (tokens.reverse ++ before) next rest

def ofText? (s : String) : Option (List Token) := scan? [] .between s.toList

end Token

end DbConsole
