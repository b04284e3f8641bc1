import DbConsole.Proofs.Decimal.Written
import DbConsole.Proofs.Sql.Name
import DbConsole.Sql.Select

namespace DbConsole

open Sql

theorem Comparator.selfDelimiting :
    SelfDelimiting Eq (· = ' ') fun c : Comparator => c.sql.toList := by
  refine .of_words (fun a b => ?_) fun a b d hd => ?_
  · cases a <;> cases b <;> decide
  · subst hd
    cases a <;> cases b <;> decide

theorem Json.sql_cases (j : Json) : (∃ s, j.sql = literal s) ∨
    j.sql.toList ≠ [] ∧ ∀ c ∈ j.sql.toList, c ≠ ' ' ∧ c ≠ '\x27' := by
  cases j with
  | null => exact .inr (by simp [sql])
  | bool b => cases b <;> exact .inr (by simp [sql])
  | number n =>
    have htext : (sql (.number n)).toList = n.write := String.toList_ofList
    rw [htext]
    refine .inr ⟨n.signedText_write.ne_nil, fun c hc => ?_⟩
    have hn := n.signedText_write.isNumberChar hc
    constructor <;> (rintro rfl; revert hn; decide)
  | string s => exact .inl ⟨s, rfl⟩
  | array items => exact .inl ⟨_, rfl⟩
  | object members => exact .inl ⟨_, rfl⟩

theorem Json.selfDelimiting :
    SelfDelimiting (fun a b : Json => a.sql = b.sql) (· = ' ') fun j => j.sql.toList := by
  -- A literal begins with its quote, and a word does not.
  have hmixed : ∀ {a b : Json} {s t value}, a.sql = literal value → b.sql.toList ≠ [] →
      (∀ c ∈ b.sql.toList, c ≠ ' ' ∧ c ≠ '\x27') → a.sql.toList ++ s ≠ b.sql.toList ++ t := by
    intro a b s t value ha hne hb he
    obtain ⟨c, rest, hw⟩ := List.exists_cons_of_ne_nil hne
    rw [ha, hw] at he
    have hc : c = '\x27' := by simpa [literal, enclose] using (congrArg List.head? he).symm
    exact (hb c (by simp [hw])).2 hc
  intro a b s t hs ht he
  obtain ⟨value, ha⟩ | ⟨hne, ha⟩ := a.sql_cases <;> obtain ⟨value', hb⟩ | ⟨hne', hb⟩ := b.sql_cases
  · simp only [ha, hb] at he ⊢
    obtain ⟨rfl, hst⟩ := literal_selfDelimiting.mono (by rintro _ rfl; decide) hs ht he
    exact ⟨rfl, hst⟩
  · exact absurd he (hmixed ha hne' hb)
  · exact absurd he.symm (hmixed hb hne ha)
  · obtain ⟨hab, hst⟩ := runs_eq he hs ht (fun c hc => (ha c hc).1) fun c hc => (hb c hc).1
    exact ⟨String.toList_inj.mp hab, hst⟩

namespace Condition

/-- Conditions on one column that compare alike; a value that is not written does not count. -/
structure Alike (a b : Condition) : Prop where
  column : a.column = b.column
  comparator : a.comparator = b.comparator
  value : a.comparator.hasOperand = true → a.value.sql = b.value.sql

theorem selfDelimiting : SelfDelimiting Alike (· = ' ') fun c : Condition => c.sql.toList := by
  rintro ⟨column, comparator, value⟩ ⟨column', comparator', value'⟩ s t hs ht he
  have hspace : ∀ {u : List Char}, Ends EndsName (' ' :: u) := ends_cons.mpr (by decide)
  have hends : ∀ {c : Comparator} {v : Json} {u : List Char}, Ends (· = ' ') u →
      Ends (· = ' ') ((if c.hasOperand then ' ' :: v.sql.toList else []) ++ u) := by
    intro c v u hu
    split <;> simp [hu]
  have htext : ∀ c : Condition, c.sql.toList = (ident c.column).toList ++ ' ' ::
      (c.comparator.sql.toList ++
        if c.comparator.hasOperand then ' ' :: c.value.sql.toList else []) := by
    intro c
    simp only [sql]
    split <;> simp
  simp only [htext, List.append_assoc, List.cons_append] at he
  obtain ⟨rfl, hrest⟩ := ident_selfDelimiting hspace hspace he
  obtain ⟨rfl, hvalue⟩ :=
    Comparator.selfDelimiting (hends hs) (hends ht) (List.cons.inj hrest).2
  by_cases hc : comparator.hasOperand = true
  · simp only [if_pos hc, List.cons_append, List.cons.injEq, true_and] at hvalue
    obtain ⟨hv, hst⟩ := Json.selfDelimiting hs ht hvalue
    exact ⟨⟨rfl, rfl, fun _ => hv⟩, hst⟩
  · simp only [if_neg hc, List.nil_append] at hvalue
    exact ⟨⟨rfl, rfl, fun h => absurd h hc⟩, hvalue⟩

end Condition

theorem SortKey.selfDelimiting :
    SelfDelimiting Eq (fun c => c = ' ' ∨ c = ',') fun k : SortKey => k.sql.toList := by
  rintro ⟨column, descending⟩ ⟨column', descending'⟩ s t hs ht he
  have hends : ∀ {b : Bool} {u : List Char},
      Ends EndsName ((if b then " DESC" else " ASC").toList ++ u) := by
    intro b u
    cases b <;> exact ends_cons.mpr (by decide)
  simp only [sql, String.toList_append, List.append_assoc] at he
  obtain ⟨rfl, hrest⟩ := ident_selfDelimiting hends hends he
  cases descending <;> cases descending' <;> simp at hrest <;> simp [hrest]

namespace Select

theorem limitSql_some (n : UInt64) :
    (limitSql (some n)).toList = " LIMIT ".toList ++ Nat.toDigits 10 n.toNat := by
  have hrepr : n.toNat.repr.toList = Nat.toDigits 10 n.toNat := String.toList_ofList
  rw [← hrepr]
  exact String.toList_append

theorem limitSql_inj {a b : Option UInt64} (h : (limitSql a).toList = (limitSql b).toList) :
    a = b := by
  have hne : ∀ n, (limitSql (some n)).toList ≠ (limitSql none).toList := by
    intro n he
    rw [limitSql_some] at he
    cases he
  cases a with
  | none =>
    cases b with
    | none => rfl
    | some n => exact absurd h.symm (hne n)
  | some m =>
    cases b with
    | none => exact absurd h (hne m)
    | some n =>
      rw [limitSql_some, limitSql_some] at h
      have hm := congrArg (Nat.ofDigitChars 10 · 0) (List.append_cancel_left h)
      have hd : ∀ k, Nat.ofDigitChars 10 (Nat.toDigits 10 k) 0 = k := by
        intro k
        exact Nat.ofDigitChars_toDigits (by decide) (by decide)
      rw [hd, hd, UInt64.toNat_inj] at hm
      rw [hm]

theorem filterSql_cons (c : Condition) (filter : List Condition) :
    (filterSql (c :: filter)).toList = " WHERE ".toList ++
      (c.sql.toList ++ filter.flatMap fun c => " AND ".toList ++ c.sql.toList) := by
  have hjoin : (String.join (filter.map fun c => " AND " ++ c.sql)).toList =
      filter.flatMap fun c => " AND ".toList ++ c.sql.toList := by
    rw [String.toList_join, List.flatMap_map]
    simp only [String.toList_append]
  rw [filterSql, String.toList_append, String.toList_append, hjoin, List.append_assoc]

def afterFilter (order : List SortKey) (limit : Option UInt64) : List Char :=
  (orderSql order).toList ++ (limitSql limit).toList

theorem limitSql_opens (limit : Option UInt64) :
    Opens [" LIMIT ".toList] (limitSql limit).toList := by
  cases limit with
  | none => exact .inl rfl
  | some n => exact .inr ⟨_, .head _, _, (limitSql_some n).symm⟩

theorem afterFilter_cons (k : SortKey) (keys : List SortKey) (limit : Option UInt64) :
    afterFilter (k :: keys) limit = " ORDER BY ".toList ++
      ((", ".intercalate ((k :: keys).map (·.sql))).toList ++ (limitSql limit).toList) := by
  rw [← List.append_assoc]
  exact congrArg (· ++ _) String.toList_append

theorem afterFilter_opens (order : List SortKey) (limit : Option UInt64) :
    Opens [" ORDER BY ".toList, " LIMIT ".toList] (afterFilter order limit) := by
  cases order with
  | nil => exact (limitSql_opens limit).imp_right fun ⟨k, hk, hpre⟩ => ⟨k, .tail _ hk, hpre⟩
  | cons k keys => exact .inr ⟨_, .head _, _, (afterFilter_cons k keys limit).symm⟩

variable {order order' : List SortKey} {limit limit' : Option UInt64}

theorem afterFilter_inj (h : afterFilter order limit = afterFilter order' limit') :
    order = order' ∧ limit = limit' := by
  have hnot : ∀ limit, ¬" ORDER BY ".toList <+: afterFilter [] limit := fun limit =>
    (limitSql_opens limit).not_isPrefixOf (by decide) (by decide)
  have hends : ∀ limit, Ends (fun c => c = ' ' ∨ c = ',') (limitSql limit).toList := fun limit =>
    (limitSql_opens limit).ends (by decide)
  have hcomma : ∀ limit, ¬", ".toList <+: (limitSql limit).toList := fun limit =>
    (limitSql_opens limit).not_isPrefixOf (by decide) (by decide)
  cases order with
  | nil =>
    cases order' with
    | nil => exact ⟨rfl, limitSql_inj h⟩
    | cons k keys => exact absurd ⟨_, (h.trans (afterFilter_cons k keys limit')).symm⟩ (hnot limit)
  | cons k keys =>
    cases order' with
    | nil =>
      exact absurd ⟨_, (h.symm.trans (afterFilter_cons k keys limit)).symm⟩ (hnot limit')
    | cons k' keys' =>
      rw [afterFilter_cons, afterFilter_cons] at h
      obtain ⟨hl, hlimit⟩ := SortKey.selfDelimiting.intercalate (by decide) (by decide)
        (List.cons_ne_nil k keys) (List.cons_ne_nil k' keys') (hends limit) (hends limit')
        (hcomma limit) (hcomma limit') (List.append_cancel_left h)
      rw [List.forall₂_eq_eq_eq] at hl
      exact ⟨hl, limitSql_inj hlimit⟩

theorem ends_afterFilter (order : List SortKey) (limit : Option UInt64) :
    Ends (· = ' ') (afterFilter order limit) :=
  (afterFilter_opens order limit).ends (by decide)

theorem filterSql_inj {filter filter' : List Condition}
    (h : (filterSql filter).toList ++ afterFilter order limit =
      (filterSql filter').toList ++ afterFilter order' limit') :
    List.Forall₂ Condition.Alike filter filter' ∧
      afterFilter order limit = afterFilter order' limit' := by
  have hwhere : ∀ order limit, ¬" WHERE ".toList <+: afterFilter order limit :=
    fun order limit => (afterFilter_opens order limit).not_isPrefixOf (by decide) (by decide)
  have hand : ∀ order limit, ¬" AND ".toList <+: afterFilter order limit :=
    fun order limit => (afterFilter_opens order limit).not_isPrefixOf (by decide) (by decide)
  cases filter with
  | nil =>
    cases filter' with
    | nil => exact ⟨.nil, h⟩
    | cons c rest =>
      rw [filterSql_cons, List.append_assoc] at h
      exact absurd ⟨_, h.symm⟩ (hwhere order limit)
  | cons c rest =>
    cases filter' with
    | nil =>
      rw [filterSql_cons, List.append_assoc] at h
      exact absurd ⟨_, h⟩ (hwhere order' limit')
    | cons c' rest' =>
      simp only [filterSql_cons, List.append_assoc] at h
      have hs := ends_afterFilter order limit
      have ht := ends_afterFilter order' limit'
      obtain ⟨hc, hrest⟩ := Condition.selfDelimiting
        (ends_flatMap (by decide) (by decide) rest hs)
        (ends_flatMap (by decide) (by decide) rest' ht) (List.append_cancel_left h)
      obtain ⟨hl, hafter⟩ := Condition.selfDelimiting.flatMap (by decide) (by decide) hs ht
        (hand order limit) (hand order' limit') hrest
      exact ⟨.cons hc hl, hafter⟩

/-- Two queries with one text have the same relation, the same order and limit, and conditions that
agree one by one. -/
theorem sql_unambiguous {q q' : Select} (h : q.sql = q'.sql) :
    q.relation = q'.relation ∧ List.Forall₂ Condition.Alike q.filter q'.filter ∧
      q.order = q'.order ∧ q.limit = q'.limit := by
  have hname : ∀ q : Select,
      Ends EndsName ((filterSql q.filter).toList ++ afterFilter q.order q.limit) := by
    intro q
    cases q.filter with
    | nil => exact (ends_afterFilter q.order q.limit).mono (by rintro _ rfl; decide)
    | cons c rest =>
      rw [filterSql_cons, List.append_assoc]
      exact Ends.append (by decide) (by decide)
  have htext : ∀ q : Select, q.sql.toList = "SELECT * FROM ".toList ++ (q.relation.sql.toList ++
      ((filterSql q.filter).toList ++ afterFilter q.order q.limit)) := by
    intro q
    unfold sql
    generalize "SELECT * FROM " = start
    simp only [String.toList_append, List.append_assoc, afterFilter]
  have he := (htext q).symm.trans ((congrArg String.toList h).trans (htext q'))
  obtain ⟨hrelation, hrest⟩ :=
    QualifiedName.selfDelimiting (hname q) (hname q') (List.append_cancel_left he)
  obtain ⟨hfilter, hafter⟩ := filterSql_inj hrest
  obtain ⟨horder, hlimit⟩ := afterFilter_inj hafter
  exact ⟨hrelation, hfilter, horder, hlimit⟩

/-- The number of the relation, a value that is not written and the difference between a list and
its text are all that two queries with one text can differ in. -/
theorem sql_unambiguous_alike :
    let q : Select := ⟨1, ⟨"a.b", "c\"d"⟩, [⟨"e ' f", .eq, .array [.bool true]⟩,
      ⟨"AND", .isNull, .null⟩], [⟨"h", true⟩], some 3⟩
    let q' : Select := ⟨2, ⟨"a.b", "c\"d"⟩, [⟨"e ' f", .eq, .string "[true]"⟩,
      ⟨"AND", .isNull, .bool true⟩], [⟨"h", true⟩], some 3⟩
    q.sql = q'.sql ∧ List.Forall₂ Condition.Alike q.filter q'.filter ∧ q.order = q'.order := by
  intro q q'
  have h : q.sql = q'.sql := rfl
  obtain ⟨_, hfilter, horder, _⟩ := sql_unambiguous h
  exact ⟨h, hfilter, horder⟩

end Select

end DbConsole
