import DbConsole.Proofs.Catalog.Batches
import DbConsole.Proofs.Console.Catalog
import DbConsole.Proofs.Console.Execution
import DbConsole.Proofs.Console.Objects

namespace DbConsole.Console

/-- Rows can be added to a relation. -/
def Inserts (c : Console) (p : DatabasePath) (oid : Oid) (rows : List Row) : Prop :=
  ∃ n, (c.step (.insert p oid rows)).1 = .number n

theorem Evolved.rowsAdmitted {c : Console} (h : c.Evolved) : c.catalog.RowsAdmitted := by
  obtain ⟨start, pageSize, steps, hs, rfl⟩ := h
  exact rowsAdmitted_run (c := Console.new start pageSize) (rowsAdmitted_start hs) steps

variable {c : Console} {p : DatabasePath} {oid : Oid} {db : Database} {s : StoredRelation}
  {rows more : List Row} {refusal : Refusal}

theorem step_insert_of_suitsAll (hd : c.catalog.database p = .ok db)
    (hr : db.relation oid = .ok s) (ha : s.relation.Admits s.rows)
    (h : s.relation.SuitsAll s.rows rows) : c.step (.insert p oid rows) =
      (.number rows.length,
        c.putDatabase p (db.putStored oid { s with rows := s.rows ++ rows })) := by
  change c.stepInsert p oid rows = _
  unfold stepInsert
  rw [Catalog.insert_eq hd hr, StoredRelation.insert_of_suitsAll ha h]
  rfl

theorem step_insert_of_refuses (hd : c.catalog.database p = .ok db)
    (hr : db.relation oid = .ok s) (ha : s.relation.Admits s.rows)
    (h : s.relation.Refuses s.rows rows refusal) : c.step (.insert p oid rows) =
      (.failed (.catalog (.refused refusal)), c) := by
  change c.stepInsert p oid rows = _
  unfold stepInsert
  rw [Catalog.insert_eq hd hr, StoredRelation.insert_of_refuses ha h]
  rfl

theorem inserts_iff (hd : c.catalog.database p = .ok db) (hr : db.relation oid = .ok s)
    (ha : s.relation.Admits s.rows) :
    c.Inserts p oid rows ↔ s.relation.SuitsAll s.rows rows := by
  refine ⟨fun ⟨n, h⟩ => ?_, fun h => ⟨_, congrArg Prod.fst (step_insert_of_suitsAll hd hr ha h)⟩⟩
  rcases s.relation.suitsAll_or_refuses s.rows rows with hs | ⟨refusal, hs⟩
  · exact hs
  · rw [step_insert_of_refuses hd hr ha hs] at h
    cases h

theorem refuses_iff (hd : c.catalog.database p = .ok db) (hr : db.relation oid = .ok s)
    (ha : s.relation.Admits s.rows) : s.relation.Refuses s.rows rows refusal ↔
      c.step (.insert p oid rows) = (.failed (.catalog (.refused refusal)), c) := by
  refine ⟨step_insert_of_refuses hd hr ha, fun h => ?_⟩
  rcases s.relation.suitsAll_or_refuses s.rows rows with hs | ⟨other, hs⟩
  · rw [step_insert_of_suitsAll hd hr ha hs] at h
    cases h
  · rw [step_insert_of_refuses hd hr ha hs] at h
    cases h
    exact hs

theorem inserts_append (hd : c.catalog.database p = .ok db) (hr : db.relation oid = .ok s)
    (ha : s.relation.Admits s.rows) (rows more : List Row) :
    (c.Inserts p oid (rows ++ more) ↔ c.Inserts p oid rows ∧
      (c.step (.insert p oid rows)).2.Inserts p oid more) ∧
    (c.Inserts p oid (rows ++ more) → ((c.step (.insert p oid rows)).2.step
      (.insert p oid more)).2 = (c.step (.insert p oid (rows ++ more))).2) := by
  rw [inserts_iff hd hr ha, inserts_iff hd hr ha, Relation.suitsAll_append]
  by_cases hs : s.relation.SuitsAll s.rows rows
  · have hadmits := StoredRelation.admits_insert ha (StoredRelation.insert_of_suitsAll ha hs)
    have hd' := Catalog.database_putDatabase_self hd
      (db.putStored oid { s with rows := s.rows ++ rows })
    have hr' := db.relation_putStored_self oid { s with rows := s.rows ++ rows }
    rw [step_insert_of_suitsAll hd hr ha hs]
    refine ⟨and_congr_right fun _ => (inserts_iff hd' hr' hadmits).symm, fun ⟨_, hm⟩ => ?_⟩
    rw [step_insert_of_suitsAll hd' hr' hadmits hm,
      step_insert_of_suitsAll hd hr ha (Relation.suitsAll_append.mpr ⟨hs, hm⟩)]
    change Console.putDatabase (c.putDatabase p _) p _ = c.putDatabase p _
    simp only [putDatabase, Catalog.putDatabase_putDatabase, Database.putStored_putStored,
      List.append_assoc]
  · exact ⟨⟨fun h => absurd h.1 hs, fun h => absurd h.1 hs⟩, fun h => absurd h.1 hs⟩

/-- Rows are added to a relation exactly if each of them suits it beside the rows stored and the
rows before it, and then all of them stand after the rows stored, in their order. Otherwise none is
added, and the answer is what is wrong with the first row that does not suit: that its length is
wrong, or else the first null where none may be, or else that its key is taken. So a list can be
added in two pieces if it can be added at once, and with the same outcome. -/
theorem inserts_valid_batches (c : Console) (hc : c.Evolved) (p : DatabasePath) (oid : Oid)
    (db : Database) (s : StoredRelation) (hd : c.catalog.database p = .ok db)
    (hr : db.relation oid = .ok s) (hk : s.relation.kind ≠ .materializedView) (rows : List Row) :
    (c.Inserts p oid rows ↔ s.relation.SuitsAll s.rows rows) ∧
    (c.Inserts p oid rows → c.step (.insert p oid rows) = (.number rows.length,
      c.putDatabase p (db.putStored oid { s with rows := s.rows ++ rows }))) ∧
    (¬c.Inserts p oid rows → ∃ refusal, s.relation.Refuses s.rows rows refusal) ∧
    (∀ refusal, s.relation.Refuses s.rows rows refusal ↔
      c.step (.insert p oid rows) = (.failed (.catalog (.refused refusal)), c)) ∧
    (∀ more, (c.Inserts p oid (rows ++ more) ↔ c.Inserts p oid rows ∧
        (c.step (.insert p oid rows)).2.Inserts p oid more) ∧
      (c.Inserts p oid (rows ++ more) → ((c.step (.insert p oid rows)).2.step
        (.insert p oid more)).2 = (c.step (.insert p oid (rows ++ more))).2)) := by
  have ha := hc.rowsAdmitted p db (Catalog.database_eq_ok.mp hd) oid s
    (Database.relation_eq_ok.mp hr) hk
  have hiff : c.Inserts p oid rows ↔ s.relation.SuitsAll s.rows rows := inserts_iff hd hr ha
  refine ⟨hiff, fun h => step_insert_of_suitsAll hd hr ha (hiff.mp h), fun h => ?_,
    fun refusal => refuses_iff hd hr ha, inserts_append hd hr ha rows⟩
  exact (s.relation.suitsAll_or_refuses s.rows rows).resolve_left (mt hiff.mpr h)

def newRows : List Row :=
  [[.nat 2, .string "x", .null], [.nat 1, .string "y", .null], [.nat 2, .string "y", .null]]

theorem inserts_valid_batches_keyed : ∃ s : StoredRelation,
    s.relation.primaryKey = ["b", "a"] ∧ s.rows.length = 2 ∧
    s.relation.SuitsAll s.rows newRows.tail ∧
    s.relation.Refuses s.rows newRows (.duplicateKey "t") ∧
    (((Console.new .standard 1).run keyedSteps).step
      (.insert ⟨1, 1, 16384⟩ 16386 (newRows.tail.take 1))).2.Inserts ⟨1, 1, 16384⟩ 16386
        (newRows.tail.drop 1) := by
  have hany : (((Console.new .standard 1).run keyedSteps).catalog.database
      ⟨1, 1, 16384⟩).toOption.any (fun db => (db.relation 16386).toOption.any fun s =>
        decide (s.relation.primaryKey = ["b", "a"] ∧ s.rows.length = 2 ∧
          s.relation.kind ≠ .materializedView)) = true := by
    decide +kernel
  have hinserts : ((Console.new .standard 1).run keyedSteps).Inserts ⟨1, 1, 16384⟩ 16386
      newRows.tail := ⟨2, rfl⟩
  have hrefused : ((Console.new .standard 1).run keyedSteps).step
      (.insert ⟨1, 1, 16384⟩ 16386 newRows) =
        (.failed (.catalog (.refused (.duplicateKey "t"))),
          (Console.new .standard 1).run keyedSteps) := rfl
  have hc : ((Console.new .standard 1).run keyedSteps).Evolved :=
    ⟨.standard, 1, keyedSteps, .inr rfl, rfl⟩
  generalize (Console.new .standard 1).run keyedSteps = c at *
  obtain ⟨db, hd, hany⟩ := (Option.any_eq_true _ _).mp hany
  obtain ⟨s, hr, hany⟩ := (Option.any_eq_true _ _).mp hany
  obtain ⟨hkey, hlength, hk⟩ := of_decide_eq_true hany
  rw [toOption_eq_some] at hd hr
  have hvalid := inserts_valid_batches c hc ⟨1, 1, 16384⟩ 16386 db s hd hr hk
  obtain ⟨hsuits, _⟩ := hvalid newRows.tail
  obtain ⟨_, _, _, hrefuses, _⟩ := hvalid newRows
  obtain ⟨_, _, _, _, hpieces⟩ := hvalid (newRows.tail.take 1)
  obtain ⟨hpieces, _⟩ := hpieces (newRows.tail.drop 1)
  rw [List.take_append_drop] at hpieces
  exact ⟨s, hkey, hlength, hsuits.mp hinserts, (hrefuses _).mpr hrefused, (hpieces.mp hinserts).2⟩

end DbConsole.Console
