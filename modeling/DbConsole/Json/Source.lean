import DbConsole.Json.Token

namespace DbConsole

/-- A JSON text as it is written. Members keep their order and may repeat a key, and a part that has
no value (a number out of range, half a surrogate pair, a container nested too deep) is marked
`unreadable`, so that a reader fails only if it looks there. -/
inductive Source where
  | null
  | bool (b : Bool)
  | number (n : Number)
  | string (s : String)
  | array (items : List Source)
  | object (members : List (Option String × Source))
  | unreadable

namespace Source

/-- A container at this depth or deeper is unreadable; the outermost one has depth 1. -/
def depthLimit : Nat := 128

/-- A container that is still open, with what it holds so far, last first. -/
inductive Frame where
  | array (items : List Source)
  | object (members : List (Option String × Source)) (key : Option String)

inductive Expected where
  | value
  | firstItem
  | key
  | firstKey
  | colon (key : Option String)
  | separator
  | nothing (root : Source)

structure Reader where
  frames : List Frame
  expected : Expected

namespace Reader

def start : Reader := ⟨[], .value⟩

def put (frames : List Frame) (v : Source) : Reader :=
  match frames with
  | [] => ⟨[], .nothing v⟩
  | .array items :: rest => ⟨.array (v :: items) :: rest, .separator⟩
  | .object members key :: rest => ⟨.object ((key, v) :: members) none :: rest, .separator⟩

def close (frames : List Frame) (v : Source) : Reader :=
  put frames (if frames.length + 1 < depthLimit then v else .unreadable)

def value? (frames : List Frame) : Token → Option Reader
  | .null => some (put frames .null)
  | .bool b => some (put frames (.bool b))
  | .number n => some (put frames (n.elim .unreadable .number))
  | .string s => some (put frames (s.elim .unreadable .string))
  | .openArray => some ⟨.array [] :: frames, .firstItem⟩
  | .openObject => some ⟨.object [] none :: frames, .firstKey⟩
  | _ => none

def step? (r : Reader) (t : Token) : Option Reader :=
  match r.expected, t, r.frames with
  | .firstItem, .closeArray, .array _ :: rest => some (close rest (.array []))
  | .value, t, frames => value? frames t
  | .firstItem, t, frames => value? frames t
  | .firstKey, .closeObject, .object _ _ :: rest => some (close rest (.object []))
  | .firstKey, .string key, frames => some ⟨frames, .colon key⟩
  | .key, .string key, frames => some ⟨frames, .colon key⟩
  | .colon key, .colon, .object members _ :: rest => some ⟨.object members key :: rest, .value⟩
  | .separator, .comma, .array items :: rest => some ⟨.array items :: rest, .value⟩
  | .separator, .comma, .object members key :: rest => some ⟨.object members key :: rest, .key⟩
  | .separator, .closeArray, .array items :: rest => some (close rest (.array items.reverse))
  | .separator, .closeObject, .object members _ :: rest =>
    some (close rest (.object members.reverse))
  | _, _, _ => none

def finish? (r : Reader) : Option Source :=
  match r.expected with
  | .nothing root => some root
  | _ => none

end Reader

def ofText? (s : String) : Option Source := do
  let tokens ← Token.ofText? s
  let r ← tokens.foldlM Reader.step? Reader.start
  r.finish?

mutual

def toJson? : Source → Option Json
  | .null => some .null
  | .bool b => some (.bool b)
  | .number n => some (.number n)
  | .string s => some (.string s)
  | .array items => (itemsToJson? items).map .array
  | .object members => (membersToJson? members).map .ofMembers
  | .unreadable => none

def itemsToJson? : List Source → Option (List Json)
  | [] => some []
  | s :: rest => do
    let j ← toJson? s
    let js ← itemsToJson? rest
    return j :: js

def membersToJson? : List (Option String × Source) → Option (List (String × Json))
  | [] => some []
  | (key, s) :: rest => do
    let key ← key
    let j ← toJson? s
    let js ← membersToJson? rest
    return (key, j) :: js

end

end Source

def Json.ofText? (s : String) : Option Json := do
  let source ← Source.ofText? s
  source.toJson?

end DbConsole
