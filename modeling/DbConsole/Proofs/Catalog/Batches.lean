import DbConsole.Proofs.Catalog.Rows
import DbConsole.Proofs.Query.Order

namespace DbConsole

theorem find?_eq_some_iff_getElem? {α : Type} {l : List α} {p : α → Bool} {a : α} :
    l.find? p = some a ↔ p a = true ∧ ∃ i : Nat, l[i]? = some a ∧
      ∀ j < i, ∀ b, l[j]? = some b → ¬p b = true := by
  rw [List.find?_eq_some_iff_getElem]
  refine and_congr_right fun _ => exists_congr fun i => ?_
  constructor
  · rintro ⟨hi, he, hfirst⟩
    refine ⟨List.getElem?_eq_some_iff.mpr ⟨hi, he⟩, fun j hj b hb => ?_⟩
    obtain ⟨_, rfl⟩ := List.getElem?_eq_some_iff.mp hb
    simpa using hfirst j hj
  · rintro ⟨he, hfirst⟩
    obtain ⟨hi, he⟩ := List.getElem?_eq_some_iff.mp he
    refine ⟨hi, he, fun j hj => ?_⟩
    simpa using hfirst j hj _ (List.getElem?_eq_getElem (Nat.lt_trans hj hi))

namespace Relation

/-- The texts of a row in the columns that the primary key names. -/
def keyUnder (r : Relation) (row : Row) : List String :=
  r.primaryKey.map fun k => (row.under r.columns k).text

/-- No cell is null in a column that must not be empty. -/
def Filled (r : Relation) (row : Row) : Prop :=
  ∀ (i : Nat) (c : Column), r.columns[i]? = some c → c.notNull = true → row[i]? ≠ some .null

/-- A row that may be added after others. -/
structure Suits (r : Relation) (earlier : List Row) (row : Row) : Prop where
  length : row.length = r.columns.length
  filled : r.Filled row
  key : r.primaryKey ≠ [] → ∀ other ∈ earlier, r.keyUnder other ≠ r.keyUnder row

/-- Why a row may not be added after others. -/
inductive Offends (r : Relation) (earlier : List Row) (row : Row) : Refusal → Prop where
  | length (hl : row.length ≠ r.columns.length) :
    Offends r earlier row (.wrongLength row.length r.name.name r.columns.length)
  | null (i : Nat) (c : Column) (hl : row.length = r.columns.length)
    (hc : r.columns[i]? = some c) (hn : c.notNull = true) (hv : row[i]? = some .null)
    (hfirst : ∀ j < i, ∀ d, r.columns[j]? = some d → d.notNull = true → row[j]? ≠ some .null) :
    Offends r earlier row (.nullValue c.name)
  | key (other : Row) (hl : row.length = r.columns.length) (hf : r.Filled row)
    (hk : r.primaryKey ≠ []) (ho : other ∈ earlier) (he : r.keyUnder other = r.keyUnder row) :
    Offends r earlier row (.duplicateKey r.name.name)

/-- Rows that may be added one after the other. -/
def SuitsAll (r : Relation) (earlier rows : List Row) : Prop :=
  ∀ before row after, rows = before ++ row :: after → r.Suits (earlier ++ before) row

/-- The first of some rows that may not be added, and why it may not. -/
def Refuses (r : Relation) (earlier rows : List Row) (refusal : Refusal) : Prop :=
  ∃ before row after, rows = before ++ row :: after ∧ r.SuitsAll earlier before ∧
    r.Offends (earlier ++ before) row refusal

variable {r : Relation} {earlier rows more : List Row} {row : Row} {refusal : Refusal}

theorem keyTexts_eq_keyUnder (h : r.keyPlaces.length = r.primaryKey.length) (row : Row) :
    r.keyTexts row = r.keyUnder row := by
  have hfound := List.filterMap_length_eq_length.mp h
  unfold keyTexts keyUnder keyPlaces
  generalize r.primaryKey = keys at hfound
  induction keys with
  | nil => rfl
  | cons k rest ih =>
    obtain ⟨i, hi⟩ := Option.isSome_iff_exists.mp (hfound k (.head _))
    have hrest := ih fun k hk => hfound k (.tail _ hk)
    simp [Row.under, hi, hrest]

theorem keyPlaces_eq_nil (h : r.keyPlaces.length = r.primaryKey.length) :
    r.keyPlaces = [] ↔ r.primaryKey = [] := by
  rw [← List.length_eq_zero_iff, h, List.length_eq_zero_iff]

theorem emptyColumn?_eq_some {c : Column} : r.emptyColumn? row = some c ↔
    ∃ i : Nat, r.columns[i]? = some c ∧ c.notNull = true ∧ row[i]? = some .null ∧
      ∀ j < i, ∀ d, r.columns[j]? = some d → d.notNull = true → row[j]? ≠ some .null := by
  have hnull : ∀ v : Json, v.isNull = true ↔ v = .null := by
    intro v
    cases v <;> simp [Json.isNull]
  unfold emptyColumn?
  simp only [Option.map_eq_some_iff, find?_eq_some_iff_getElem?, Bool.and_eq_true, hnull,
    List.getElem?_zip_eq_some]
  constructor
  · rintro ⟨⟨c', v⟩, ⟨⟨hn, rfl⟩, i, ⟨hc, hv⟩, hfirst⟩, rfl⟩
    exact ⟨i, hc, hn, hv, fun j hj d hd hdn hjv => hfirst j hj (d, .null) ⟨hd, hjv⟩ ⟨hdn, rfl⟩⟩
  · rintro ⟨i, hc, hn, hv, hfirst⟩
    refine ⟨(c, .null), ⟨⟨hn, rfl⟩, i, ⟨hc, hv⟩, ?_⟩, rfl⟩
    rintro j hj ⟨d, v⟩ ⟨hd, hjv⟩ ⟨hdn, rfl⟩
    exact hfirst j hj d hd hdn hjv

theorem emptyColumn?_eq_none : r.emptyColumn? row = none ↔ r.Filled row := by
  refine ⟨fun h i c hc hn => filled_of_emptyColumn? h hc hn, fun h => ?_⟩
  cases he : r.emptyColumn? row with
  | none => rfl
  | some c =>
    obtain ⟨i, hc, hn, hv, _⟩ := emptyColumn?_eq_some.mp he
    exact absurd hv (h i c hc hn)

theorem suits_or_offends (r : Relation) (earlier : List Row) (row : Row) :
    r.Suits earlier row ∨ ∃ refusal, r.Offends earlier row refusal := by
  by_cases hl : row.length = r.columns.length
  · cases he : r.emptyColumn? row with
    | some c =>
      obtain ⟨i, hc, hn, hv, hfirst⟩ := emptyColumn?_eq_some.mp he
      exact .inr ⟨_, .null i c hl hc hn hv hfirst⟩
    | none =>
      have hf := emptyColumn?_eq_none.mp he
      by_cases hk : r.primaryKey ≠ [] ∧ ∃ other ∈ earlier, r.keyUnder other = r.keyUnder row
      · obtain ⟨hk, other, ho, he⟩ := hk
        exact .inr ⟨_, .key other hl hf hk ho he⟩
      · exact .inl ⟨hl, hf, fun hne other ho he => hk ⟨hne, other, ho, he⟩⟩
  · exact .inr ⟨_, .length hl⟩

theorem suitsAll_nil : r.SuitsAll earlier [] := by
  intro before row after h
  simp at h

theorem suitsAll_cons : r.SuitsAll earlier (row :: rows) ↔
    r.Suits earlier row ∧ r.SuitsAll (earlier ++ [row]) rows := by
  constructor
  · intro h
    refine ⟨by simpa using h [] row rows rfl, fun before row' after he => ?_⟩
    have := h (row :: before) row' after (by rw [he, List.cons_append])
    simpa using this
  · rintro ⟨hr, hrows⟩ before row' after he
    cases before with
    | nil =>
      cases he
      simpa using hr
    | cons a before =>
      cases he
      simpa using hrows before row' after rfl

theorem refuses_cons : r.Refuses earlier (row :: rows) refusal ↔
    r.Offends earlier row refusal ∨
      r.Suits earlier row ∧ r.Refuses (earlier ++ [row]) rows refusal := by
  constructor
  · rintro ⟨before, row', after, he, hs, ho⟩
    cases before with
    | nil =>
      cases he
      exact .inl (by simpa using ho)
    | cons a before =>
      cases he
      obtain ⟨ha, hs⟩ := suitsAll_cons.mp hs
      exact .inr ⟨ha, before, row', after, rfl, hs, by simpa using ho⟩
  · rintro (ho | ⟨hr, before, row', after, rfl, hs, ho⟩)
    · exact ⟨[], row, rows, rfl, suitsAll_nil, by simpa using ho⟩
    · exact ⟨row :: before, row', after, rfl, suitsAll_cons.mpr ⟨hr, hs⟩, by simpa using ho⟩

theorem suitsAll_or_refuses (r : Relation) (earlier rows : List Row) :
    r.SuitsAll earlier rows ∨ ∃ refusal, r.Refuses earlier rows refusal := by
  induction rows generalizing earlier with
  | nil => exact .inl suitsAll_nil
  | cons row rest ih =>
    rcases r.suits_or_offends earlier row with hr | ⟨refusal, ho⟩
    · rcases ih (earlier ++ [row]) with hs | ⟨refusal, hs⟩
      · exact .inl (suitsAll_cons.mpr ⟨hr, hs⟩)
      · exact .inr ⟨refusal, refuses_cons.mpr (.inr ⟨hr, hs⟩)⟩
    · exact .inr ⟨refusal, refuses_cons.mpr (.inl ho)⟩

theorem suitsAll_append : r.SuitsAll earlier (rows ++ more) ↔
    r.SuitsAll earlier rows ∧ r.SuitsAll (earlier ++ rows) more := by
  induction rows generalizing earlier with
  | nil => simp [suitsAll_nil]
  | cons row rest ih =>
    rw [List.cons_append, suitsAll_cons, suitsAll_cons, ih, and_assoc, List.append_assoc,
      List.singleton_append]

end Relation

namespace StoredRelation

open DbConsole.Relation

variable {r : Relation} {s : StoredRelation} {taken : List (List String)}
  {earlier rows : List Row} {row : Row} {refusal : Refusal}

/-- The keys taken are those of certain rows, in any order. -/
def Taken (r : Relation) (earlier : List Row) (taken : List (List String)) : Prop :=
  ∀ key, key ∈ taken ↔ ∃ other ∈ earlier, r.keyUnder other = key

theorem Taken.cons (h : Taken r earlier taken) (row : Row) :
    Taken r (earlier ++ [row]) (r.keyUnder row :: taken) := by
  intro key
  simp only [List.mem_cons, h key, List.mem_append, List.not_mem_nil, or_false, or_and_right,
    exists_or, exists_eq_left]
  rw [or_comm, eq_comm]

theorem accept_of_suits (hk : r.keyPlaces.length = r.primaryKey.length)
    (ht : Taken r earlier taken) (h : r.Suits earlier row) :
    accept r taken row = .ok (r.keyUnder row) := by
  have hfree : ¬(r.keyPlaces ≠ [] ∧ r.keyUnder row ∈ taken) := by
    rintro ⟨hp, hm⟩
    obtain ⟨other, ho, he⟩ := (ht _).mp hm
    exact h.key (mt (keyPlaces_eq_nil hk).mpr hp) other ho he
  unfold accept
  rw [key?_eq h.length, emptyColumn?_eq_none.mpr h.filled, keyTexts_eq_keyUnder hk]
  simp only [h.length, ne_eq, not_true_eq_false, if_false, Option.getD_some]
  rw [if_neg hfree]
  rfl

theorem accept_of_offends (hk : r.keyPlaces.length = r.primaryKey.length)
    (ht : Taken r earlier taken) (h : r.Offends earlier row refusal) :
    accept r taken row = .error refusal := by
  cases h with
  | length hl =>
    unfold accept
    rw [if_pos hl]
    rfl
  | null i c hl hc hn hv hfirst =>
    unfold accept
    rw [emptyColumn?_eq_some.mpr ⟨i, hc, hn, hv, hfirst⟩, if_neg (not_not.mpr hl)]
    rfl
  | key other hl hf hne ho he =>
    have htaken : r.keyPlaces ≠ [] ∧ r.keyUnder row ∈ taken :=
      ⟨mt (keyPlaces_eq_nil hk).mp hne, (ht _).mpr ⟨other, ho, he⟩⟩
    unfold accept
    rw [key?_eq hl, emptyColumn?_eq_none.mpr hf, keyTexts_eq_keyUnder hk]
    simp only [hl, ne_eq, not_true_eq_false, if_false, Option.getD_some]
    rw [if_pos htaken]
    rfl

theorem acceptAll_of_suitsAll (hk : r.keyPlaces.length = r.primaryKey.length)
    (ht : Taken r earlier taken) (h : r.SuitsAll earlier rows) :
    acceptAll r taken rows = .ok () := by
  induction rows generalizing earlier taken with
  | nil => rfl
  | cons row rest ih =>
    obtain ⟨hr, hrest⟩ := suitsAll_cons.mp h
    rw [acceptAll, accept_of_suits hk ht hr]
    exact ih (ht.cons row) hrest

theorem acceptAll_of_refuses (hk : r.keyPlaces.length = r.primaryKey.length)
    (ht : Taken r earlier taken) (h : r.Refuses earlier rows refusal) :
    acceptAll r taken rows = .error refusal := by
  induction rows generalizing earlier taken with
  | nil =>
    obtain ⟨before, row, after, he, _⟩ := h
    simp at he
  | cons row rest ih =>
    rcases refuses_cons.mp h with ho | ⟨hr, hrest⟩
    · rw [acceptAll, accept_of_offends hk ht ho]
      rfl
    · rw [acceptAll, accept_of_suits hk ht hr]
      exact ih (ht.cons row) hrest

theorem taken_stored (h : s.relation.Admits s.rows) :
    Taken s.relation s.rows (s.rows.map s.relation.keyTexts) := by
  intro key
  simp only [List.mem_map, keyTexts_eq_keyUnder h.keyFound]

theorem insert_of_suitsAll (h : s.relation.Admits s.rows)
    (hs : s.relation.SuitsAll s.rows rows) :
    s.insert rows = .ok { s with rows := s.rows ++ rows } := by
  unfold insert
  rw [taken_eq h]
  simp only [acceptAll_of_suitsAll h.keyFound (taken_stored h) hs]

theorem insert_of_refuses (h : s.relation.Admits s.rows)
    (hs : s.relation.Refuses s.rows rows refusal) :
    s.insert rows = .error (.refused (.refused refusal)) := by
  unfold insert
  rw [taken_eq h]
  simp only [acceptAll_of_refuses h.keyFound (taken_stored h) hs]

end StoredRelation

end DbConsole
