import DbConsole.Proofs.Query.Evaluation
import DbConsole.Proofs.View.Request

namespace DbConsole.ViewRequest

variable {request : ViewRequest} {target : Target} {mode : ViewMode}
  {filter filter' : List Condition} {r : Relation} {rows answered : List Row}

/-- The query for a request can be made, and these are the rows that it answers. -/
def Answers (request : ViewRequest) (r : Relation) (rows answered : List Row) : Prop :=
  ∃ q plan, request.select r = .ok q ∧ Plan.resolve r.columns q = .ok plan ∧
    plan.apply rows = answered

theorem select_accepts : (∃ q, request.select r = .ok q) ↔
    (request.mode = .filteredRows ↔ request.filter ≠ []) ∧
      ∀ c ∈ request.filter, (r.column? c.column).isSome := by
  constructor
  · rintro ⟨q, hq⟩
    refine ⟨⟨fun hm he => ?_, fun he => ?_⟩, (select_eq_ok hq).1⟩
    · cases (select_missing hm he).symm.trans hq
    · by_contra hm
      cases (select_unexpected hm he).symm.trans hq
  · rintro ⟨hm, hknown⟩
    exact ⟨_, select_known hm hknown⟩

theorem answers_iff : request.Answers r rows answered ↔
    (∃ q, request.select r = .ok q) ∧ ∃ order sorted,
      Plan.Locates r.columns (sortKeys request.mode r) order ∧
      SortedBy (Plan.compareRows order) (rows.filter (·.meets r.columns request.filter)) sorted ∧
      cut request.mode.limit sorted = answered := by
  constructor
  · rintro ⟨q, plan, hq, hp, happly⟩
    obtain ⟨-, hkeys⟩ := select_eq_ok hq
    have hs : SortedBy (Plan.compareRows plan.order) (rows.filter (·.meets r.columns q.filter)) _ :=
      .mergeSort _
    have hcut := Plan.apply_of_sortedBy hp hs
    have hlocates := (Plan.resolve_inv hp).2.1
    subst hkeys
    exact ⟨⟨_, hq⟩, plan.order, _, hlocates, hs, hcut.symm.trans happly⟩
  · rintro ⟨⟨q, hq⟩, order, sorted, hlocates, hs, rfl⟩
    obtain ⟨-, hkeys⟩ := select_eq_ok hq
    have hcolumns : ∀ k ∈ q.order, ∃ column ∈ r.columns, column.name = k.column :=
      fun k hk => Plan.column_of_locates hlocates (by rwa [hkeys] at hk)
    obtain ⟨plan, hp⟩ := Plan.resolve_eq_ok (fun c hc => column_of_condition hq hc) hcolumns
    subst hkeys
    obtain rfl := Plan.locates_unique hlocates (Plan.resolve_inv hp).2.1
    exact ⟨_, plan, hq, hp, Plan.apply_of_sortedBy hp hs⟩

theorem answers_perm (h : filter.Perm filter') :
    Answers ⟨target, mode, filter⟩ r rows answered ↔
      Answers ⟨target, mode, filter'⟩ r rows answered := by
  have hmeets : (fun row : Row => row.meets r.columns filter) =
      fun row => row.meets r.columns filter' := funext (meets_perm h)
  have hempty : filter = [] ↔ filter' = [] := by
    rw [← List.length_eq_zero_iff, h.length_eq, List.length_eq_zero_iff]
  simp only [answers_iff, select_accepts, ne_eq, hmeets, h.mem_iff, hempty]

theorem answers_unfiltered {order : List (Nat × Bool)} {sorted : List Row}
    (hm : mode ≠ .filteredRows) (ho : Plan.Locates r.columns (sortKeys mode r) order)
    (hs : SortedBy (Plan.compareRows order) rows sorted) :
    Answers ⟨target, mode, []⟩ r rows (cut mode.limit sorted) :=
  answers_iff.mpr ⟨select_accepts.mpr (by simpa using hm), order, sorted, ho,
    by simpa [Row.meets] using hs, rfl⟩

/-- The answers with a primary key: `all` is sorted by it, and the other modes answer a part of
`all`. -/
structure Keyed (target : Target) (r : Relation) (rows all : List Row) : Prop where
  whole : Answers ⟨target, .allRows, []⟩ r rows all
  sorted : StableSort (Precedes r.columns (r.primaryKey.map .ascending))
    (alike r.columns (r.primaryKey.map .ascending)) rows all
  first : Answers ⟨target, .firstRows, []⟩ r rows (all.take 100)
  filtered : ∀ filter q, select ⟨target, .filteredRows, filter⟩ r = .ok q →
    Answers ⟨target, .filteredRows, filter⟩ r rows (all.filter (·.meets r.columns filter))
  last : rows.Pairwise (fun a b => ¬alike r.columns (r.primaryKey.map .ascending) a b) →
    Answers ⟨target, .lastRows, []⟩ r rows (all.reverse.take 100)

theorem answers_keyed (hk : r.primaryKey ≠ [])
    (hc : ∀ name ∈ r.primaryKey, ∃ c ∈ r.columns, c.name = name) :
    ∃ all, Keyed target r rows all := by
  have hfirst : sortKeys .firstRows r = r.primaryKey.map .ascending := by
    simp only [sortKeys, if_neg hk]
    rfl
  have hlast : sortKeys .lastRows r = r.primaryKey.map fun k => ⟨k, true⟩ := by
    simp only [sortKeys, if_neg hk]
  obtain ⟨order, ho⟩ : ∃ order, Plan.Locates r.columns (r.primaryKey.map .ascending) order :=
    Plan.exists_locates (List.forall_mem_map.mpr hc)
  obtain ⟨down, hdown⟩ : ∃ order, Plan.Locates r.columns (sortKeys .lastRows r) order :=
    Plan.exists_locates (hlast ▸ List.forall_mem_map.mpr hc)
  have hs : SortedBy (Plan.compareRows order) rows _ := .mergeSort rows
  refine ⟨_, {
    whole := answers_unfiltered nofun ho hs
    sorted := Plan.stableSort_of_sortedBy ho hs
    first := answers_unfiltered nofun (hfirst ▸ ho) hs
    filtered := fun filter q hq => answers_iff.mpr ⟨⟨q, hq⟩, order, _, ho, hs.filter _, rfl⟩
    last := fun hne => answers_unfiltered nofun hdown ?_ }⟩
  rw [Plan.compareRows_descending ho (hlast ▸ hdown)]
  exact hs.reverse (hne.imp fun hab heq => hab ((Plan.compareRows_eq_eq ho).mp heq))

theorem answers_keyless (hk : r.primaryKey = []) (hd : (r.columns.map (·.name)).Nodup) :
    Answers ⟨target, .allRows, []⟩ r rows rows ∧
      ∃ sorted, StableSort (PrecedesAt r.columns.length) (alikeAt r.columns.length) rows sorted ∧
        Answers ⟨target, .firstRows, []⟩ r rows (sorted.take 100) := by
  have hfirst : sortKeys .firstRows r = r.columns.map fun c => .ascending c.name := by
    simp only [sortKeys, if_pos hk, List.map_map]
    rfl
  have hall : sortKeys .allRows r = [] := by simp [sortKeys, hk]
  obtain ⟨order, ho⟩ : ∃ order, Plan.Locates r.columns (sortKeys .firstRows r) order :=
    Plan.exists_locates (hfirst ▸ List.forall_mem_map.mpr fun c hc => ⟨c, hc, rfl⟩)
  have hs : SortedBy (Plan.compareRows order) rows _ := .mergeSort rows
  have hstable := Plan.stableSort_of_sortedBy ho hs
  rw [hfirst, precedes_columns hd, alike_columns hd] at hstable
  exact ⟨answers_unfiltered nofun (hall ▸ .nil) (Plan.sortedBy_nil rows), _, hstable,
    answers_unfiltered nofun ho hs⟩

/-- With a primary key among the columns, the first rows, the filtered rows and, where no two rows
have the same key, the last rows are read off the answer for all rows. Without one, all rows are
those stored, and the first rows come from them sorted by all cells. The order of the conditions in
a filter makes no difference. -/
theorem modes_agree (target : Target) (r : Relation) (rows : List Row) :
    (r.primaryKey ≠ [] → (∀ name ∈ r.primaryKey, ∃ c ∈ r.columns, c.name = name) →
      ∃ all, Keyed target r rows all) ∧
    (r.primaryKey = [] → (r.columns.map (·.name)).Nodup →
      Answers ⟨target, .allRows, []⟩ r rows rows ∧
      ∃ sorted, StableSort (PrecedesAt r.columns.length) (alikeAt r.columns.length) rows sorted ∧
        Answers ⟨target, .firstRows, []⟩ r rows (sorted.take 100)) ∧
    ∀ mode filter filter' answered, filter.Perm filter' →
      (Answers ⟨target, mode, filter⟩ r rows answered ↔
        Answers ⟨target, mode, filter'⟩ r rows answered) :=
  ⟨answers_keyed, answers_keyless, fun _ _ _ _ => answers_perm⟩

def numbers (primaryKey : List String) : Relation where
  oid := 16386
  schemaOid := 16385
  name := ⟨"public", "numbers"⟩
  kind := .table
  columns := [⟨"id", "integer", false⟩, ⟨"name", "text", false⟩]
  primaryKey := primaryKey
  description := none
  options := default

def numbersRows : List Row :=
  [[.nat 3, .string "three"], [.nat 1, .string "one"], [.string "2"], [.nat 2, .string "two"]]

def numbersTarget : Target := ⟨⟨1, 1, 16384⟩, 16386, .table⟩

theorem modes_agree_numbers :
    (∃ all, Answers ⟨numbersTarget, .allRows, []⟩ (numbers ["id"]) numbersRows all ∧
      Answers ⟨numbersTarget, .firstRows, []⟩ (numbers ["id"]) numbersRows (all.take 100) ∧
      Answers ⟨numbersTarget, .filteredRows, [⟨"id", .ge, .nat 2⟩]⟩ (numbers ["id"]) numbersRows
        (all.filter (·.meets (numbers ["id"]).columns [⟨"id", .ge, .nat 2⟩])) ∧
      Answers ⟨numbersTarget, .lastRows, []⟩ (numbers ["id"]) numbersRows
        (all.reverse.take 100)) ∧
    Answers ⟨numbersTarget, .allRows, []⟩ (numbers []) numbersRows numbersRows := by
  obtain ⟨hkeyed, -, -⟩ := modes_agree numbersTarget (numbers ["id"]) numbersRows
  obtain ⟨-, hkeyless, -⟩ := modes_agree numbersTarget (numbers []) numbersRows
  obtain ⟨all, h⟩ := hkeyed (by decide) (by decide)
  have hne : numbersRows.Pairwise fun a b =>
      ¬alike (numbers ["id"]).columns ((numbers ["id"]).primaryKey.map .ascending) a b := by
    decide +kernel
  exact ⟨⟨all, h.whole, h.first, h.filtered _ _ rfl, h.last hne⟩,
    (hkeyless rfl (by decide)).1⟩

end DbConsole.ViewRequest
