import DbConsole.Proofs.Catalog.Rows
import DbConsole.Proofs.Query.Comparison
import DbConsole.Proofs.Query.Evaluation

namespace DbConsole

theorem Comparator.holds_eq {cell operand : Json} :
    Comparator.eq.holds cell operand = true ↔ cell.compare? operand = some .eq := by
  change Comparator.eq.accepts (cell.compare? operand) = true ↔ _
  cases cell.compare? operand <;> simp [Comparator.accepts]

namespace Plan

variable {columns : List Column} {q : Select} {plan : Plan} {rows : List Row} {i : Nat}

theorem apply_subperm (plan : Plan) (rows : List Row) :
    (plan.apply rows).Subperm (rows.filter plan.accepts) := by
  have hs := List.mergeSort_perm (rows.filter plan.accepts)
    fun a b => (compareRows plan.order a b).isLE
  unfold apply
  dsimp only
  cases plan.limit with
  | none => exact hs.subperm
  | some n => exact (List.take_sublist _ _).subperm.trans hs.subperm

theorem length_apply (h : plan.limit = none) (rows : List Row) :
    (plan.apply rows).length = (rows.filter plan.accepts).length := by
  unfold apply
  simp [h]

theorem compare_of_mem_apply (h : resolve columns q = .ok plan) {c : Condition}
    (hc : c ∈ q.filter) (he : c.comparator = .eq) (hi : place columns c.column = .ok i) {row : Row}
    (hr : row ∈ plan.apply rows) : (row.cell i).compare? c.value = some .eq := by
  have hmeets := (List.mem_filter.mp ((apply_subperm plan rows).subset hr)).2
  rw [accepts_of_resolve h] at hmeets
  have hunder : row.under columns c.column = row.cell i := by
    simp [Row.under, place_eq_ok_iff.mp hi]
  rw [← Comparator.holds_eq, ← he, ← hunder]
  exact List.all_eq_true.mp hmeets c hc

theorem pairwise_apply {R : Row → Row → Prop} (hsymm : ∀ {a b}, R a b → R b a)
    (h : rows.Pairwise R) (plan : Plan) : (plan.apply rows).Pairwise R := by
  obtain ⟨l, hp, hs⟩ := apply_subperm plan rows
  have hl := (h.sublist (List.filter_sublist (p := plan.accepts))).sublist hs
  exact (hp.pairwise_iff hsymm).mp hl

end Plan

namespace Relation

variable {r : Relation} {rows : List Row} {values : List Json} {a b : Row} {i : Nat}

/-- The conditions that the columns of the primary key equal certain values, one for each. -/
def keyConditions (r : Relation) (values : List Json) : List Condition :=
  r.primaryKey.zipWith (fun k v => ⟨k, .eq, v⟩) values

theorem exists_keyCondition (hl : values.length = r.primaryKey.length) (hi : i ∈ r.keyPlaces) :
    ∃ c ∈ r.keyConditions values, c.comparator = .eq ∧
      Plan.place r.columns c.column = .ok i := by
  obtain ⟨k, hk, hi⟩ := List.mem_filterMap.mp hi
  obtain ⟨n, hn, rfl⟩ := List.mem_iff_getElem.mp hk
  have hz : n < (r.keyConditions values).length := by
    rw [keyConditions, List.length_zipWith, hl, Nat.min_self]
    exact hn
  refine ⟨(r.keyConditions values)[n], List.getElem_mem hz, ?_, ?_⟩
  · simp [keyConditions]
  · rw [Plan.place_eq_ok_iff]
    simpa [keyConditions] using hi

theorem exists_text_ne (h : r.keyTexts a ≠ r.keyTexts b) :
    ∃ i ∈ r.keyPlaces, (a.cell i).text ≠ (b.cell i).text := by
  by_contra hn
  apply h
  refine List.map_congr_left fun i hi => ?_
  by_contra hne
  exact hn ⟨i, hi, hne⟩

theorem column_of_keyCondition {c : Condition} (h : r.Admits rows)
    (hc : c ∈ r.keyConditions values) : ∃ column ∈ r.columns, column.name = c.column := by
  obtain ⟨n, hn, rfl⟩ := List.mem_iff_getElem.mp hc
  have hlen : n < r.primaryKey.length := by
    simp only [keyConditions, List.length_zipWith] at hn
    omega
  have hk : r.primaryKey[n] ∈ r.primaryKey := List.getElem_mem hlen
  have hfound := List.filterMap_length_eq_length.mp h.keyFound _ hk
  rw [List.findIdx?_isSome, List.any_eq_true] at hfound
  obtain ⟨column, hm, hname⟩ := hfound
  exact ⟨column, hm, by simpa [keyConditions] using hname⟩

/-- Of the rows that are found under one key, any two differ by the spelling of a number in it. -/
theorem respells_of_apply (h : r.Admits rows) (hk : r.primaryKey ≠ [])
    (hl : values.length = r.primaryKey.length) {q : Select} (hf : q.filter = r.keyConditions values)
    {plan : Plan} (hp : Plan.resolve r.columns q = .ok plan) :
    (plan.apply rows).Pairwise fun a b => ∃ i ∈ r.keyPlaces, (a.cell i).Respells (b.cell i) := by
  have hkeys := Plan.pairwise_apply (fun hne => Ne.symm hne) (h.keys hk) plan
  refine hkeys.imp_of_mem fun {a b} ha hb hne => ?_
  obtain ⟨i, hi, htext⟩ := exists_text_ne hne
  obtain ⟨c, hc, he, hplace⟩ := exists_keyCondition hl hi
  have hmatch : ∀ {row}, row ∈ plan.apply rows → (row.cell i).compare? c.value = some .eq :=
    Plan.compare_of_mem_apply hp (hf ▸ hc) he hplace
  exact ⟨i, hi, Json.respells_of_compare (hmatch ha) (hmatch hb) htext⟩

end Relation

end DbConsole
