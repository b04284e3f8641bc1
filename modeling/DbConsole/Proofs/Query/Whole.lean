import DbConsole.Proofs.Decimal.Whole
import DbConsole.Proofs.Query.Evaluation

namespace DbConsole

def Comparator.relates (c : Comparator) (m n : Int) : Prop :=
  match c with
  | .eq => m = n
  | .ne => m ≠ n
  | .lt => m < n
  | .le => m ≤ n
  | .gt => n < m
  | .ge => n ≤ m
  | .isNull | .isNotNull => False

instance (c : Comparator) (m n : Int) : Decidable (c.relates m n) :=
  match c with
  | .eq => inferInstanceAs (Decidable (m = n))
  | .ne => inferInstanceAs (Decidable (m ≠ n))
  | .lt => inferInstanceAs (Decidable (m < n))
  | .le => inferInstanceAs (Decidable (m ≤ n))
  | .gt => inferInstanceAs (Decidable (n < m))
  | .ge => inferInstanceAs (Decidable (n ≤ m))
  | .isNull | .isNotNull => inferInstanceAs (Decidable False)

/-- A sort key puts the first whole number before the second. -/
def SortKey.ahead (k : SortKey) (m n : Int) : Prop :=
  (if k.descending then n < m else m < n) ∧ Binary64.ofInt m ≠ Binary64.ofInt n

open Binary64 (ofInt)

theorem Comparator.holds_int {c : Comparator} (hc : c.hasOperand = true) (m n : Int) :
    c.holds (.number (.int m)) (.number (.int n)) = true ↔
      if ofInt m = ofInt n then c.relates m m else c.relates m n := by
  have hcompare : (Json.number (.int m)).compare? (.number (.int n)) =
      some (if ofInt m = ofInt n then .eq else compare m n) :=
    congrArg some (Binary64.compare_ofInt Binary64.place_ofInt_lt m n)
  cases c with
  | isNull | isNotNull => cases hc
  | eq | ne | lt | le | gt | ge =>
    simp only [holds, hcompare]
    split <;> simp [accepts, relates, compare_lt_iff_lt, compare_gt_iff_gt]

theorem Json.sortCompare_int (m n : Int) :
    (Json.number (.int m)).sortCompare (.number (.int n)) =
      if ofInt m = ofInt n then .eq else compare m n :=
  Binary64.compare_ofInt Binary64.rank_ofInt_lt m n

namespace SortKey

variable {columns : List Column} {k : SortKey} {rows sorted : List Row} {value : Row → Int}

theorem compare_int {a b : Row} {m n : Int}
    (ha : a.under columns k.column = .number (.int m))
    (hb : b.under columns k.column = .number (.int n)) :
    k.compare columns a b = if ofInt m = ofInt n then .eq
      else if k.descending then Ord.compare n m else Ord.compare m n := by
  simp only [SortKey.compare, ha, hb, Json.sortCompare_int, eq_comm (a := ofInt n)]
  split <;> split <;> rfl

theorem compare_int_eq {a b : Row} {m n : Int}
    (ha : a.under columns k.column = .number (.int m))
    (hb : b.under columns k.column = .number (.int n)) :
    k.compare columns a b = .eq ↔ ofInt m = ofInt n := by
  rw [compare_int ha hb]
  constructor
  · intro h
    by_contra hne
    rw [if_neg hne] at h
    split at h
    · exact hne (congrArg ofInt (compare_eq_iff_eq.mp h).symm)
    · exact hne (congrArg ofInt (compare_eq_iff_eq.mp h))
  · exact fun h => if_pos h

theorem stableSort_int (hv : ∀ row ∈ rows, row.under columns k.column = .number (.int (value row)))
    (h : StableSort (Precedes columns [k]) (alike columns [k]) rows sorted) :
    StableSort (fun a b => k.ahead (value a) (value b))
      (fun a b => ofInt (value a) = ofInt (value b)) rows sorted := by
  refine h.congr (fun a ha b hb hab => ?_) (fun a ha b hb => ?_) fun a b hab => ?_
  · obtain ⟨hlt, hne⟩ := hab
    refine .first _ _ _ _ ?_
    rw [compare_int (hv a ha) (hv b hb), if_neg hne]
    split at hlt
    · next hd => rw [if_pos hd, compare_lt_iff_lt.mpr hlt]
    · next hd => rw [if_neg hd, compare_lt_iff_lt.mpr hlt]
  · have heq := compare_int_eq (hv a ha) (hv b hb)
    simp only [alike, List.all_cons, List.all_nil, Bool.and_true, heq]
  · funext c
    simp only [of_decide_eq_true hab]

end SortKey

namespace Plan

/-- Whole numbers are compared as such, except that those that are rounded to one floating point
number are taken for equal; and those are large and close together. -/
theorem compares_whole_numbers :
    (∀ (c : Comparator) (m n : Int), c.hasOperand = true →
      (c.holds (.number (.int m)) (.number (.int n)) = true ↔
        if ofInt m = ofInt n then c.relates m m else c.relates m n)) ∧
    (∀ (columns : List Column) (q : Select) (k : SortKey), q.order = [k] →
      (∀ c ∈ q.filter, ∃ column ∈ columns, column.name = c.column) →
      (∃ column ∈ columns, column.name = k.column) →
      ∃ plan, resolve columns q = .ok plan ∧ ∀ (rows : List Row) (value : Row → Int),
        (∀ row ∈ rows, row.under columns k.column = .number (.int (value row))) →
        ∃ sorted, plan.apply rows = cut q.limit sorted ∧
          StableSort (fun a b => k.ahead (value a) (value b))
            (fun a b => ofInt (value a) = ofInt (value b))
            (rows.filter (·.meets columns q.filter)) sorted) ∧
    ∀ m n : Int, Fits64 m → Fits64 n → m ≠ n → ofInt m = ofInt n →
      Nat.pow 2 53 ≤ m.natAbs ∧ Nat.pow 2 53 ≤ n.natAbs ∧
        (m - n).natAbs * Nat.pow 2 53 ≤ m.natAbs + n.natAbs := by
  refine ⟨fun c m n hc => Comparator.holds_int hc m n, fun columns q k ho hf hk => ?_,
    fun m n hm hn => Binary64.close_of_ofInt_eq hm hn⟩
  obtain ⟨plan, hp⟩ := resolve_eq_ok hf (by simpa [ho] using hk)
  refine ⟨plan, hp, fun rows value hv => ?_⟩
  have hs : SortedBy (compareRows plan.order) (rows.filter (·.meets columns q.filter)) _ :=
    .mergeSort _
  have hstable := stableSort_of_sortedBy (resolve_inv hp).2.1 hs
  rw [ho] at hstable
  exact ⟨_, apply_of_sortedBy hp hs,
    SortKey.stableSort_int (fun row hr => hv row (List.mem_of_mem_filter hr)) hstable⟩

def keyColumns : List Column := [⟨"id", "bigint", true⟩]

def keyQuery (descending : Bool) : Select where
  relationOid := 16386
  relation := ⟨"public", "t"⟩
  filter := []
  order := [⟨"id", descending⟩]
  limit := none

def neighbours : List Row := [[.nat 9007199254740993], [.nat 9007199254740992]]

def keyOf : Row → Int
  | .number (.int n) :: _ => n
  | _ => 0

theorem compares_whole_numbers_neighbours :
    Comparator.le.holds (.nat 4) (.nat 5) = true ∧
    (∃ plan sorted, resolve keyColumns (keyQuery true) = .ok plan ∧
      plan.apply neighbours = sorted ∧
      StableSort (fun a b => SortKey.ahead ⟨"id", true⟩ (keyOf a) (keyOf b))
        (fun a b => ofInt (keyOf a) = ofInt (keyOf b)) neighbours sorted) ∧
    (9007199254740993 - 9007199254740992 : Int).natAbs * Nat.pow 2 53 ≤
      9007199254740993 + 9007199254740992 := by
  obtain ⟨hholds, hsorts, hclose⟩ := compares_whole_numbers
  obtain ⟨plan, hp, happly⟩ := hsorts keyColumns (keyQuery true) ⟨"id", true⟩ rfl nofun (by decide)
  obtain ⟨sorted, hcut, hsorted⟩ := happly neighbours keyOf (by simp [neighbours]; exact ⟨rfl, rfl⟩)
  refine ⟨(hholds .le 4 5 rfl).mpr ?_, ⟨plan, sorted, hp, hcut, hsorted⟩, ?_⟩
  · rw [if_neg (by decide +kernel)]
    decide
  · exact (hclose 9007199254740993 9007199254740992 (by decide) (by decide)
      (by decide) (by decide +kernel)).2.2

/-- A filter for equality and an ascending sort take different whole numbers for equal. -/
theorem neighbours_taken_for_equal :
    (¬∀ m n : Int, Fits64 m → Fits64 n →
      (Comparator.eq.holds (.number (.int m)) (.number (.int n)) = true ↔ m = n)) ∧
    ∃ plan, resolve keyColumns (keyQuery false) = .ok plan ∧
      plan.apply neighbours = [[.nat 9007199254740993], [.nat 9007199254740992]] := by
  constructor
  · intro h
    have heq := h 9007199254740993 9007199254740992 (by decide) (by decide)
    exact absurd (heq.mp (by decide +kernel)) (by decide)
  · have hp : resolve keyColumns (keyQuery false) = .ok ⟨[], [(0, false)], none⟩ := rfl
    refine ⟨_, hp, apply_of_sortedBy hp ⟨.refl _, ?_, fun _ => rfl⟩⟩
    decide +kernel

end Plan

end DbConsole
