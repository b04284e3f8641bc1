import DbConsole.Proofs.Catalog.Query
import DbConsole.Proofs.Query.Order
import DbConsole.Proofs.Query.Sorting

namespace DbConsole

/-- The row meets every condition, each on the cell in the column that it names. -/
def Row.meets (columns : List Column) (filter : List Condition) (row : Row) : Bool :=
  filter.all fun c => c.comparator.holds (row.under columns c.column) c.value

theorem meets_perm {columns : List Column} {filter filter' : List Condition}
    (h : filter.Perm filter') (row : Row) :
    row.meets columns filter = row.meets columns filter' := by
  rw [Bool.eq_iff_iff]
  simp only [Row.meets, List.all_eq_true, h.mem_iff]

/-- As many of the first rows as a limit lets through. -/
def cut (limit : Option UInt64) (rows : List Row) : List Row :=
  match limit with
  | none => rows
  | some n => rows.take n.toNat

namespace Plan

variable {columns : List Column} {q : Select} {plan : Plan} {rows sorted : List Row}

theorem resolve_inv (h : resolve columns q = .ok plan) :
    List.Forall₂ (fun c o => columns.findIdx? (·.name = c.column) = some o.1 ∧ c = o.2) q.filter
        plan.filter ∧
      Locates columns q.order plan.order ∧ plan.limit = q.limit := by
  obtain ⟨filter, hf, h⟩ := bind_eq_ok.mp h
  obtain ⟨order, ho, h⟩ := bind_eq_ok.mp h
  cases h
  refine ⟨(mapM_eq_ok.mp hf).imp fun c o hc => ?_,
    (mapM_eq_ok.mp ho).imp fun k o hk => ?_, rfl⟩
  · obtain ⟨i, hi, hc⟩ := bind_eq_ok.mp hc
    cases hc
    exact ⟨place_eq_ok_iff.mp hi, rfl⟩
  · obtain ⟨i, hi, hk⟩ := bind_eq_ok.mp hk
    cases hk
    exact ⟨place_eq_ok_iff.mp hi, rfl⟩

theorem accepts_of_resolve (h : resolve columns q = .ok plan) (row : Row) :
    plan.accepts row = row.meets columns q.filter := by
  obtain ⟨hf, -⟩ := resolve_inv h
  unfold accepts Row.meets
  generalize q.filter = conditions, plan.filter = filter at hf
  induction hf with
  | nil => rfl
  | @cons c o conditions filter hc hrest ih =>
    obtain ⟨i, c⟩ := o
    obtain ⟨hi, rfl⟩ := hc
    rw [List.all_cons, List.all_cons, ih, Row.under, hi]
    rfl

theorem exists_locates {keys : List SortKey}
    (h : ∀ k ∈ keys, ∃ column ∈ columns, column.name = k.column) :
    ∃ order, Locates columns keys order := by
  obtain ⟨plan, hp⟩ := resolve_eq_ok (q := { (default : Select) with filter := [], order := keys })
    nofun h
  exact ⟨plan.order, (resolve_inv hp).2.1⟩

theorem sortedBy_nil (rows : List Row) : SortedBy (compareRows []) rows rows where
  perm := .refl rows
  ordered := List.pairwise_of_forall nofun
  stable _ := rfl

theorem apply_of_sortedBy (h : resolve columns q = .ok plan)
    (hs : SortedBy (compareRows plan.order) (rows.filter (·.meets columns q.filter)) sorted) :
    plan.apply rows = cut q.limit sorted := by
  rw [← funext (accepts_of_resolve h)] at hs
  rw [apply, SortedBy.unique (.mergeSort (rows.filter plan.accepts)) hs, (resolve_inv h).2.2]
  cases q.limit <;> rfl

theorem stableSort_of_sortedBy {keys : List SortKey} {order : List (Nat × Bool)}
    (h : Locates columns keys order) (hs : SortedBy (compareRows order) rows sorted) :
    StableSort (Precedes columns keys) (alike columns keys) rows sorted where
  perm := hs.perm
  ordered := hs.ordered.imp fun hab hlt => hab ((compareRows_eq_lt h).mpr hlt)
  stable a := by
    have halike : (fun b => decide (compareRows order a b = .eq)) = alike columns keys a := by
      funext b
      rw [Bool.eq_iff_iff, decide_eq_true_iff, compareRows_eq_eq h]
    rw [← halike, hs.stable a]

/-- A query whose columns are there answers the beginning, as far as its limit, of the rows that
meet every condition, stably sorted by its keys. The comparison of rows behind it is a total
preorder on rows of all lengths and contents, and puts null behind everything else. -/
theorem filters_sorts_cuts (columns : List Column) (q : Select)
    (hf : ∀ c ∈ q.filter, ∃ column ∈ columns, column.name = c.column)
    (ho : ∀ k ∈ q.order, ∃ column ∈ columns, column.name = k.column) :
    ∃ plan, resolve columns q = .ok plan ∧
      (∀ rows, ∃ sorted, plan.apply rows = cut q.limit sorted ∧
        StableSort (Precedes columns q.order) (alike columns q.order)
          (rows.filter (·.meets columns q.filter)) sorted) ∧
      (∀ a b, compareRows plan.order a b = .lt ↔ Precedes columns q.order a b) ∧
      (∀ a b, compareRows plan.order a b = .eq ↔ alike columns q.order a b) ∧
      TotalPreorder (compareRows plan.order) ∧ TotalPreorder Json.sortCompare ∧
      ∀ j, j ≠ .null → Json.sortCompare j .null = .lt := by
  obtain ⟨plan, hp⟩ := resolve_eq_ok hf ho
  have hlocates := (resolve_inv hp).2.1
  refine ⟨plan, hp, fun rows => ?_, fun _ _ => compareRows_eq_lt hlocates,
    fun _ _ => compareRows_eq_eq hlocates, .of_transCmp _, .of_transCmp _,
    fun _ => Json.sortCompare_null⟩
  have hs : SortedBy (compareRows plan.order) (rows.filter (·.meets columns q.filter)) _ :=
    .mergeSort _
  exact ⟨_, apply_of_sortedBy hp hs, stableSort_of_sortedBy hlocates hs⟩

def mixedRows : List Row :=
  [[.string "10a"], [.nat 10], [], [.string "2", .null], [.bool true], [.nat 7, .string "x"],
    [.null, .null], [.number (.float (.ofRatio false 5 2) (by decide))]]

def mixedColumns : List Column := [⟨"id", "json", false⟩, ⟨"name", "text", false⟩]

def mixedQuery : Select where
  relationOid := 16386
  relation := ⟨"public", "t"⟩
  filter := [⟨"name", .isNull, .null⟩]
  order := [⟨"id", true⟩, ⟨"name", false⟩]
  limit := some 4

theorem filters_sorts_cuts_mixed :
    (∀ c ∈ mixedQuery.filter, ∃ column ∈ mixedColumns, column.name = c.column) ∧
    (∀ k ∈ mixedQuery.order, ∃ column ∈ mixedColumns, column.name = k.column) ∧
    ∃ plan sorted, resolve mixedColumns mixedQuery = .ok plan ∧
      plan.apply mixedRows = sorted.take 4 ∧
      StableSort (Precedes mixedColumns mixedQuery.order) (alike mixedColumns mixedQuery.order)
        (mixedRows.filter (·.meets mixedColumns mixedQuery.filter)) sorted ∧
      TotalPreorder (compareRows plan.order) := by
  have hf : ∀ c ∈ mixedQuery.filter, ∃ column ∈ mixedColumns, column.name = c.column := by
    simp [mixedQuery, mixedColumns]
  have ho : ∀ k ∈ mixedQuery.order, ∃ column ∈ mixedColumns, column.name = k.column := by
    simp [mixedQuery, mixedColumns]
  obtain ⟨plan, hp, hrows, _, _, hpreorder, _⟩ := filters_sorts_cuts mixedColumns mixedQuery hf ho
  obtain ⟨sorted, happly, hsorted⟩ := hrows mixedRows
  exact ⟨hf, ho, plan, sorted, hp, happly, hsorted, hpreorder⟩

end Plan

end DbConsole
