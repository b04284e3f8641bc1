import DbConsole.Json.Source

namespace DbConsole

/-- The outermost level of a document. -/
inductive Shape (δ : Type) where
  | null
  | bool (b : Bool)
  | number (n : Number)
  | string (s : String)
  | array (items : List δ)
  | object (members : List (Option String × δ))
  | unreadable

/-- A JSON value or a text that is read as one. A record is an object with the fields of the record,
or an array of them in their order; a choice is the name of an alternative, or an object whose one
member has that name. -/
class Document (δ : Type) where
  shape : δ → Shape δ
  toJson? : δ → Option Json
  /-- Whether an alternative may have its fields in an array, as every other record may. -/
  alternativesByPlace : Bool

instance : Document Json where
  shape
    | .null => .null
    | .bool b => .bool b
    | .number n => .number n
    | .string s => .string s
    | .array items => .array items
    | .object members => .object (members.map fun m => (some m.1, m.2))
  toJson? := some
  alternativesByPlace := false

instance : Document Source where
  shape
    | .null => .null
    | .bool b => .bool b
    | .number n => .number n
    | .string s => .string s
    | .array items => .array items
    | .object members => .object members
    | .unreadable => .unreadable
  toJson? := Source.toJson?
  alternativesByPlace := true

namespace Document

variable {δ α β : Type} [Document δ]

def bool? (d : δ) : Option Bool :=
  match shape d with
  | .bool b => some b
  | _ => none

def string? (d : δ) : Option String :=
  match shape d with
  | .string s => some s
  | _ => none

def natBelow? (bound : Nat) (d : δ) : Option Nat :=
  match shape d with
  | .number (.int n) => if 0 ≤ n ∧ n < bound then some n.toNat else none
  | _ => none

def uint8? (d : δ) : Option UInt8 := (natBelow? UInt8.size d).map UInt8.ofNat

def uint32? (d : δ) : Option UInt32 := (natBelow? UInt32.size d).map UInt32.ofNat

def uint64? (d : δ) : Option UInt64 := (natBelow? UInt64.size d).map UInt64.ofNat

def list? (item? : δ → Option α) (d : δ) : Option (List α) :=
  match shape d with
  | .array items => items.mapM item?
  | _ => none

def option? (item? : δ → Option α) (d : δ) : Option (Option α) :=
  match shape d with
  | .null => some none
  | _ => (item? d).map some

def pair? (first? : δ → Option α) (second? : δ → Option β) (d : δ) : Option (α × β) :=
  match shape d with
  | .array [a, b] => do
    let a ← first? a
    let b ← second? b
    return (a, b)
  | _ => none

def readableKeys? (members : List (Option String × δ)) : Option (List (String × δ)) :=
  members.mapM fun (key, d) => key.map fun k => (k, d)

def map? (item? : δ → Option α) (d : δ) : Option (SortedMap String α) :=
  match shape d with
  | .object members => do
    let members ← readableKeys? members
    let members ← members.mapM fun (key, d) => (item? d).map fun a => (key, a)
    return SortedMap.ofList members
  | _ => none

def alternative? (d : δ) : Option (String × δ) :=
  match shape d with
  | .object [(some key, d)] => some (key, d)
  | _ => none

def choice? (names : List (String × α)) (d : δ) : Option α :=
  match shape d with
  | .string name => names.lookup name
  | _ => do
    let (name, d) ← alternative? d
    let .null := shape d | none
    names.lookup name

end Document

structure Fields (δ : Type) where
  given : List (String × δ)
  byPlace : Bool

namespace Fields

variable {δ α : Type} [Document δ]

/-- The fields with the names given. Members of other names are passed over, and no field may be
given twice; an array may leave out fields at its end. -/
def read? (names : List String) (d : δ) : Option (Fields δ) :=
  match Document.shape d with
  | .object members => do
    let members ← Document.readableKeys? members
    let given := members.filter fun m => names.contains m.1
    guard (given.map (·.1)).Nodup
    return ⟨given, false⟩
  | .array items => do
    guard (items.length ≤ names.length)
    return ⟨names.zip items, true⟩
  | _ => none

/-- The fields of an alternative. A text may give them by their places, a value may not. -/
def readAlternative? (names : List String) (d : δ) : Option (Fields δ) := do
  let f ← read? names d
  guard (!f.byPlace || Document.alternativesByPlace δ)
  return f

def required? (f : Fields δ) (name : String) (item? : δ → Option α) : Option α := do
  let d ← f.given.lookup name
  item? d

def optional? (f : Fields δ) (name : String) (item? : δ → Option α) : Option (Option α) :=
  match f.given.lookup name with
  | some d => Document.option? item? d
  | none => if f.byPlace then none else some none

def withDefault? (f : Fields δ) (name : String) (default : α) (item? : δ → Option α) : Option α :=
  match f.given.lookup name with
  | some d => item? d
  | none => some default

end Fields

end DbConsole
