import DbConsole.Query.Plan
import Mathlib.Data.List.Basic

namespace DbConsole

namespace Json

def sortFlag : Json → Bool
  | .bool b => b
  | _ => false

def sortPlace : Json → Int
  | .number n => n.toBinary64.rank
  | _ => 0

def sortText : Json → String
  | .bool _ | .number _ => ""
  | .string s => s
  | j => j.text

theorem sortCompare_eq : sortCompare = compareLex (compareOn sortRank)
    (compareLex (compareOn sortFlag) (compareLex (compareOn sortPlace) (compareOn sortText))) := by
  funext a b
  cases a <;> cases b <;>
    simp [sortCompare, compareLex, compareOn, sortRank, sortFlag, sortPlace, sortText,
      Nat.compare_eq_ite_lt]

instance : Std.TransCmp sortCompare := by
  rw [sortCompare_eq]
  infer_instance

theorem sortCompare_null {j : Json} (h : j ≠ .null) : j.sortCompare .null = .lt := by
  cases j with
  | null => exact absurd rfl h
  | bool | number | string | array | object => rfl

end Json

/-- The cell in the column of a name, the first one of several; where there is none it is null. -/
def Row.under (columns : List Column) (row : Row) (name : String) : Json :=
  ((columns.findIdx? (·.name = name)).map row.cell).getD .null

def SortKey.compare (columns : List Column) (k : SortKey) (a b : Row) : Ordering :=
  if k.descending then (b.under columns k.column).sortCompare (a.under columns k.column)
  else (a.under columns k.column).sortCompare (b.under columns k.column)

/-- The first key on which two rows differ puts the one before the other. -/
inductive Precedes (columns : List Column) : List SortKey → Row → Row → Prop where
  | first (k : SortKey) (rest : List SortKey) (a b : Row) (h : k.compare columns a b = .lt) :
    Precedes columns (k :: rest) a b
  | later (k : SortKey) (rest : List SortKey) (a b : Row) (h : k.compare columns a b = .eq)
    (hr : Precedes columns rest a b) : Precedes columns (k :: rest) a b

/-- The rows are equal on all keys. -/
def alike (columns : List Column) (keys : List SortKey) (a b : Row) : Bool :=
  keys.all fun k => k.compare columns a b = .eq

namespace Plan

variable {columns : List Column} {keys : List SortKey} {order order' : List (Nat × Bool)}
  {a b : Row}

def compareAt (i : Nat) (descending : Bool) (a b : Row) : Ordering :=
  if descending then (b.cell i).sortCompare (a.cell i) else (a.cell i).sortCompare (b.cell i)

instance (i : Nat) (descending : Bool) : Std.TransCmp (compareAt i descending) where
  eq_swap {a b} := by
    cases descending <;> exact @Std.OrientedCmp.eq_swap _ Json.sortCompare _ _ _
  isLE_trans {a b c} hab hbc := by
    cases descending with
    | false => exact @Std.TransCmp.isLE_trans _ Json.sortCompare _ _ _ _ hab hbc
    | true => exact @Std.TransCmp.isLE_trans _ Json.sortCompare _ _ _ _ hbc hab

theorem compareRows_cons (i : Nat) (descending : Bool) (rest : List (Nat × Bool)) :
    compareRows ((i, descending) :: rest) =
      compareLex (compareAt i descending) (compareRows rest) := by
  funext a b
  have hswap : (b.cell i).sortCompare (a.cell i) = ((a.cell i).sortCompare (b.cell i)).swap :=
    Std.OrientedCmp.eq_swap
  cases descending <;> simp [compareRows, compareLex, compareAt, hswap]

instance : Std.TransCmp (compareRows order) := by
  induction order with
  | nil => exact { eq_swap := rfl, isLE_trans := fun _ _ => rfl }
  | cons key rest ih =>
    obtain ⟨i, descending⟩ := key
    rw [compareRows_cons]
    infer_instance

def Locates (columns : List Column) (keys : List SortKey) (order : List (Nat × Bool)) : Prop :=
  List.Forall₂ (fun k o => columns.findIdx? (·.name = k.column) = some o.1 ∧ k.descending = o.2)
    keys order

theorem compareAt_eq {k : SortKey} {i : Nat}
    (h : columns.findIdx? (·.name = k.column) = some i) :
    compareAt i k.descending a b = k.compare columns a b := by
  simp [compareAt, SortKey.compare, Row.under, h]

theorem compareRows_eq_lt (h : Locates columns keys order) :
    compareRows order a b = .lt ↔ Precedes columns keys a b := by
  induction h with
  | nil => exact ⟨nofun, nofun⟩
  | @cons k o keys order hk hrest ih =>
    obtain ⟨i, descending⟩ := o
    obtain ⟨hi, rfl⟩ := hk
    rw [compareRows_cons, compareLex, Ordering.then_eq_lt, compareAt_eq hi, ih]
    constructor
    · rintro (hlt | ⟨heq, hlater⟩)
      · exact .first _ _ _ _ hlt
      · exact .later _ _ _ _ heq hlater
    · rintro (⟨_, _, _, _, hlt⟩ | ⟨_, _, _, _, heq, hlater⟩)
      · exact .inl hlt
      · exact .inr ⟨heq, hlater⟩

theorem compareRows_eq_eq (h : Locates columns keys order) :
    compareRows order a b = .eq ↔ alike columns keys a b := by
  induction h with
  | nil => exact ⟨fun _ => rfl, fun _ => rfl⟩
  | @cons k o keys order hk hrest ih =>
    obtain ⟨i, descending⟩ := o
    obtain ⟨hi, rfl⟩ := hk
    rw [compareRows_cons, compareLex, Ordering.then_eq_eq, compareAt_eq hi, ih]
    simp [alike]

theorem column_of_locates (h : Locates columns keys order) {k : SortKey} (hk : k ∈ keys) :
    ∃ column ∈ columns, column.name = k.column := by
  induction h with
  | nil => cases hk
  | cons ho _ ih =>
    rcases List.mem_cons.mp hk with rfl | hk
    · obtain ⟨hi, hname, -⟩ := List.findIdx?_eq_some_iff_getElem.mp ho.1
      exact ⟨_, List.getElem_mem hi, of_decide_eq_true hname⟩
    · exact ih hk

theorem locates_unique (h : Locates columns keys order) (h' : Locates columns keys order') :
    order = order' := by
  induction h generalizing order' with
  | nil => cases h'; rfl
  | cons ho _ ih =>
    cases h' with
    | cons ho' hrest' =>
      have hplace := Option.some.inj (ho.1.symm.trans ho'.1)
      rw [Prod.ext hplace (ho.2.symm.trans ho'.2), ih hrest']

theorem compareRows_descending {names : List String}
    (h : Locates columns (names.map fun k => ⟨k, false⟩) order)
    (h' : Locates columns (names.map fun k => ⟨k, true⟩) order') :
    compareRows order' = fun a b => compareRows order b a := by
  induction names generalizing order order' with
  | nil =>
    cases h
    cases h'
    rfl
  | cons name rest ih =>
    cases h with
    | @cons _ o _ order ho hrest =>
      cases h' with
      | @cons _ o' _ order' ho' hrest' =>
        obtain ⟨i, descending⟩ := o
        obtain ⟨i', descending'⟩ := o'
        obtain ⟨hi, rfl⟩ := ho
        obtain ⟨hi', rfl⟩ := ho'
        obtain rfl := Option.some.inj (hi.symm.trans hi')
        rw [compareRows_cons, compareRows_cons, ih hrest hrest']
        rfl

end Plan

/-- The first place where two rows differ puts the one before the other. -/
def PrecedesAt (width : Nat) (a b : Row) : Prop :=
  ∃ i < width, (∀ j < i, (a.cell j).sortCompare (b.cell j) = .eq) ∧
    (a.cell i).sortCompare (b.cell i) = .lt

def alikeAt (width : Nat) (a b : Row) : Bool :=
  (List.range width).all fun i => (a.cell i).sortCompare (b.cell i) = .eq

section EveryPlace

variable {columns : List Column} {keys : List SortKey} {a b : Row}

theorem precedes_iff : Precedes columns keys a b ↔ ∃ i, ∃ h : i < keys.length,
    (∀ j, ∀ hj : j < i, keys[j].compare columns a b = .eq) ∧
      keys[i].compare columns a b = .lt := by
  constructor
  · intro h
    induction h with
    | first k rest a b h => exact ⟨0, Nat.zero_lt_succ _, nofun, h⟩
    | later k rest a b h _ ih =>
      obtain ⟨i, hi, heq, hlt⟩ := ih
      refine ⟨i + 1, Nat.succ_lt_succ hi, fun j hj => ?_, hlt⟩
      cases j with
      | zero => exact h
      | succ j => exact heq j (Nat.lt_of_succ_lt_succ hj)
  · rintro ⟨i, hi, heq, hlt⟩
    induction keys generalizing i with
    | nil => exact absurd hi (Nat.not_lt_zero i)
    | cons k rest ih =>
      cases i with
      | zero => exact .first _ _ _ _ hlt
      | succ i =>
        refine .later _ _ _ _ (heq 0 (Nat.zero_lt_succ i)) ?_
        exact ih i (Nat.lt_of_succ_lt_succ hi) (fun j hj => heq (j + 1) (Nat.succ_lt_succ hj)) hlt

theorem compare_ascending (hd : (columns.map (·.name)).Nodup) {i : Nat} (hi : i < columns.length) :
    (SortKey.ascending columns[i].name).compare columns a b =
      (a.cell i).sortCompare (b.cell i) := by
  have hplace : columns.findIdx? (·.name = columns[i].name) = some i := by
    refine List.findIdx?_eq_some_iff_getElem.mpr ⟨hi, by simp, fun j hj => ?_⟩
    have hne := List.pairwise_iff_getElem.mp hd j i (by simp; omega) (by simpa) hj
    simpa using hne
  exact (Plan.compareAt_eq (k := .ascending columns[i].name) hplace).symm

theorem precedes_columns (hd : (columns.map (·.name)).Nodup) :
    Precedes columns (columns.map fun c => .ascending c.name) = PrecedesAt columns.length := by
  funext a b
  refine propext (precedes_iff.trans ?_)
  simp only [List.getElem_map, List.length_map]
  constructor
  · rintro ⟨i, hi, heq, hlt⟩
    refine ⟨i, hi, fun j hj => ?_, compare_ascending hd hi ▸ hlt⟩
    exact compare_ascending hd (Nat.lt_trans hj hi) ▸ heq j hj
  · rintro ⟨i, hi, heq, hlt⟩
    refine ⟨i, hi, fun j hj => ?_, (compare_ascending hd hi).trans hlt⟩
    exact (compare_ascending hd (Nat.lt_trans hj hi)).trans (heq j hj)

theorem alike_columns (hd : (columns.map (·.name)).Nodup) :
    alike columns (columns.map fun c => .ascending c.name) = alikeAt columns.length := by
  funext a b
  rw [Bool.eq_iff_iff]
  simp only [alike, alikeAt, List.all_eq_true, List.mem_range, decide_eq_true_iff]
  constructor
  · intro h i hi
    rw [← compare_ascending hd hi]
    exact h _ (List.mem_map.mpr ⟨columns[i], List.getElem_mem hi, rfl⟩)
  · intro h k hk
    obtain ⟨c, hc, rfl⟩ := List.mem_map.mp hk
    obtain ⟨i, hi, rfl⟩ := List.mem_iff_getElem.mp hc
    rw [compare_ascending hd hi]
    exact h i hi

end EveryPlace

end DbConsole
