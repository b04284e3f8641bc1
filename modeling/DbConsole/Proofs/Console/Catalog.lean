import DbConsole.Proofs.Catalog.Evolution
import DbConsole.Proofs.Catalog.Rows
import DbConsole.Proofs.Console.Step

namespace DbConsole.Console

theorem nextOid_le_run (c : Console) (steps : List Step) :
    c.catalog.nextOid ≤ (c.run steps).catalog.nextOid :=
  catalog_preserves (P := fun catalog => c.catalog.nextOid ≤ catalog.nextOid)
    (fun h hc => Nat.le_trans h (Catalog.nextOid_le_of_change hc)) steps (Nat.le_refl _)

/-- While numbers last, whatever happens to a console leaves its catalog well-formed, and an old
number does not come to stand for anything else. -/
theorem catalog_run {c : Console} (h : c.catalog.WellFormed) (steps : List Step)
    (hl : (c.run steps).catalog.nextOid < UInt32.size) :
    (c.run steps).catalog.WellFormed ∧ c.catalog.Leads (c.run steps).catalog := by
  refine run_preserves (P := fun c' => c'.catalog.nextOid < UInt32.size →
    c'.catalog.WellFormed ∧ c.catalog.Leads c'.catalog) ?_ ?_ steps (fun _ => ⟨h, .refl _⟩) hl
  · exact fun _ h => h
  · intro c₁ c₂ h₁ hm hl₂
    rcases catalog_of_moves hm with he | hc
    · rw [he] at hl₂ ⊢
      exact h₁ hl₂
    · have hl₁ := Nat.lt_of_le_of_lt (Catalog.nextOid_le_of_change hc) hl₂
      obtain ⟨hw, hlead⟩ := h₁ hl₁
      exact ⟨hw.change hc hl₂, hlead.trans (Catalog.leads_of_change hw.numbered hc hl₂)⟩

theorem wellFormed_start {start : Catalog} (h : start = .empty ∨ start = .standard) :
    start.WellFormed := by
  rcases h with rfl | rfl
  · exact .empty
  · exact .standard

/-- Every catalog that a console can get to from an empty or the standard one is well-formed, as
long as the numbers have not run out. -/
theorem catalog_wellFormed (start : Catalog) (hs : start = .empty ∨ start = .standard)
    (pageSize : Nat) (steps : List Step)
    (hl : ((Console.new start pageSize).run steps).catalog.nextOid < UInt32.size) :
    ((Console.new start pageSize).run steps).catalog.WellFormed :=
  (catalog_run (c := Console.new start pageSize) (wellFormed_start hs) steps hl).1

def alteringSteps : List Step :=
  [.createRelation ⟨1, 1, 16384⟩ ⟨"public", "t", .table, [⟨"id", "text", false⟩], ["id"]⟩,
    .createTrigger ⟨1, 1, 16384⟩ 16386 "a" "f", .createTrigger ⟨1, 1, 16384⟩ 16386 "b" "f",
    .connect "k" ⟨1, 1, 16384⟩,
    .execute "k" [.comment (.trigger 16387 "a" ⟨"public", "t"⟩) (some ""),
      .setOptions 16386 .table ⟨"public", "t"⟩ [("fillfactor", "70")],
      .renameTrigger 16387 ⟨"public", "t"⟩ "a" "c"],
    .execute "k" [.renameTrigger 16388 ⟨"public", "t"⟩ "b" "c"], .placeGroup 2]

/-- Of two triggers one takes a new name, and the other one then cannot have it. -/
theorem catalog_wellFormed_altering :
    ∃ c : Catalog, c.WellFormed ∧ c.nextOid = 16389 ∧
      [16387, 16388].map (fun oid => (c.trigger ⟨1, 1, 16384⟩ 16386 oid).toOption.map (·.name)) =
        [some "c", some "b"] := by
  have hl : ((Console.new .standard 10).run alteringSteps).catalog.nextOid = 16389 := by
    decide +kernel
  have hw := catalog_wellFormed .standard (.inr rfl) 10 alteringSteps (by rw [hl]; decide)
  exact ⟨_, hw, hl, by decide +kernel⟩

theorem rowsAdmitted_run {c : Console} (h : c.catalog.RowsAdmitted) (steps : List Step) :
    (c.run steps).catalog.RowsAdmitted := catalog_preserves Catalog.rowsAdmitted_change steps h

theorem rowsAdmitted_start {start : Catalog} (h : start = .empty ∨ start = .standard) :
    start.RowsAdmitted := by
  rcases h with rfl | rfl
  · exact Catalog.rowsAdmitted_empty
  · exact Catalog.rowsAdmitted_standard

theorem insert_of_broken {c : Console} {p : DatabasePath} {oid : Oid} {rows : List Row}
    {db : Database} {s : StoredRelation} (hd : c.catalog.database p = .ok db)
    (hr : db.relation oid = .ok s) (hb : (c.step (.insert p oid rows)).1 = .broken) :
    s.insert rows = .error .shortStoredRow := by
  change (c.stepInsert p oid rows).1 = .broken at hb
  unfold stepInsert at hb
  rw [Catalog.insert_eq hd hr] at hb
  cases hs : s.insert rows with
  | ok r => simp [hs, bind, Except.bind] at hb
  | error e =>
    cases e with
    | refused e => simp [hs, bind, Except.bind] at hb
    | shortStoredRow => rfl

/-- Whatever happens to a console, the rows of a relation are rows that it may have, unless it is a
materialized view, and nothing can break down where more are inserted. -/
theorem rows_admitted (start : Catalog) (hs : start = .empty ∨ start = .standard) (pageSize : Nat)
    (steps : List Step) (p : DatabasePath) (oid : Oid) (db : Database) (s : StoredRelation)
    (hd : ((Console.new start pageSize).run steps).catalog.database p = .ok db)
    (hr : db.relation oid = .ok s) (hk : s.relation.kind ≠ .materializedView) :
    s.relation.Admits s.rows ∧ ∀ rows,
      (((Console.new start pageSize).run steps).step (.insert p oid rows)).1 ≠ .broken := by
  have hall := rowsAdmitted_run (c := Console.new start pageSize) (rowsAdmitted_start hs) steps
  have hadmits := hall p db (Catalog.database_eq_ok.mp hd) oid s
    (Database.relation_eq_ok.mp hr) hk
  refine ⟨hadmits, fun rows hb => ?_⟩
  exact StoredRelation.insert_ne_shortStoredRow hadmits rows (insert_of_broken hd hr hb)

/-- Of the last three rows the third has the key of a stored one, so that none of them is taken. -/
def keyedSteps : List Step :=
  [.createRelation ⟨1, 1, 16384⟩ ⟨"public", "t", .table,
      [⟨"a", "int4", false⟩, ⟨"b", "text", false⟩, ⟨"c", "text", false⟩], ["b", "a"]⟩,
    .insert ⟨1, 1, 16384⟩ 16386
      [[.nat 1, .string "x", .null], [.nat 2, .string "x", .string "z"]],
    .insert ⟨1, 1, 16384⟩ 16386
      [[.nat 1, .string "y", .null], [.nat 2, .string "y", .null], [.nat 2, .string "x", .null]]]

theorem rows_admitted_keyed : ∃ s : StoredRelation, s.rows.length = 2 ∧
    s.relation.Admits s.rows ∧
    (((Console.new .standard 1).run keyedSteps).step (.insert ⟨1, 1, 16384⟩ 16386 [[]])).1 ≠
      .broken := by
  have hany : (((Console.new .standard 1).run keyedSteps).catalog.database
      ⟨1, 1, 16384⟩).toOption.any (fun db => (db.relation 16386).toOption.any fun s =>
        decide (s.rows.length = 2 ∧ s.relation.kind ≠ .materializedView)) = true := by
    decide +kernel
  cases hd : ((Console.new .standard 1).run keyedSteps).catalog.database ⟨1, 1, 16384⟩ with
  | error e => simp [hd, Except.toOption] at hany
  | ok db =>
    cases hr : db.relation 16386 with
    | error e => simp [hd, hr, Except.toOption] at hany
    | ok s =>
      have hs : s.rows.length = 2 ∧ s.relation.kind ≠ .materializedView := by
        simpa [hd, hr, Except.toOption] using hany
      obtain ⟨hadmits, hinsert⟩ :=
        rows_admitted .standard (.inr rfl) 1 keyedSteps _ 16386 db s hd hr hs.2
      exact ⟨s, hs.1, hadmits, hinsert [[]]⟩

end DbConsole.Console
