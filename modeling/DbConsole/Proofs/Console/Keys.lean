import DbConsole.Proofs.Catalog.Keys
import DbConsole.Proofs.Console.Catalog

namespace DbConsole.Console

/-- A query for one value in each column of a primary key is answered with one row at most, unless
some number in the key is spelled in several ways. -/
theorem key_identifies (start : Catalog) (hs : start = .empty ∨ start = .standard) (pageSize : Nat)
    (steps : List Step) (p : DatabasePath) (oid : Oid) (db : Database) (s : StoredRelation)
    (hd : ((Console.new start pageSize).run steps).catalog.database p = .ok db)
    (hr : db.relation oid = .ok s) (hk : s.relation.kind ≠ .materializedView)
    (hkey : s.relation.primaryKey ≠ []) (values : List Json)
    (hl : values.length = s.relation.primaryKey.length) (q : Select) (hq : q.relationOid = oid)
    (hf : q.filter = s.relation.keyConditions values)
    (ho : ∀ k ∈ q.order, ∃ column ∈ s.relation.columns, column.name = k.column) :
    ∃ rows : List Row,
      (∀ batchSize, Outcome.ofEvents
        (((Console.new start pageSize).run steps).catalog.stream p q batchSize) =
          .completed rows) ∧
      rows.Pairwise (fun a b => ∃ i ∈ s.relation.keyPlaces, (a.cell i).Respells (b.cell i)) ∧
      ((∀ a ∈ rows, ∀ b ∈ rows, ∀ i ∈ s.relation.keyPlaces, ¬(a.cell i).Respells (b.cell i)) →
        rows.length ≤ 1) := by
  have hall := rowsAdmitted_run (c := Console.new start pageSize) (rowsAdmitted_start hs) steps
  have hadmits := hall p db (Catalog.database_eq_ok.mp hd) oid s
    (Database.relation_eq_ok.mp hr) hk
  obtain ⟨plan, hp⟩ := Plan.resolve_eq_ok (q := q)
    (fun c hc => Relation.column_of_keyCondition hadmits (hf ▸ hc)) ho
  have hselect := Catalog.select_eq_ok hd (hq ▸ hr) (fun he => absurd he hk) hp
  have hpairs := Relation.respells_of_apply hadmits hkey hl hf hp
  refine ⟨plan.apply s.rows, fun batchSize => ?_, hpairs, fun hnone => ?_⟩
  · rw [Catalog.ofEvents_stream, hselect]
    rfl
  · -- Of several rows the first two would differ by a spelling.
    match hrows : plan.apply s.rows with
    | [] | [_] => simp
    | a :: b :: rest =>
      rw [hrows] at hpairs hnone
      obtain ⟨i, hi, hrespells⟩ := (List.pairwise_cons.mp hpairs).1 b (.head _)
      exact absurd hrespells (hnone a (.head _) b (.tail _ (.head _)) i hi)

def spelledSteps : List Step :=
  [.createRelation ⟨1, 1, 16384⟩ ⟨"public", "t", .table, [⟨"k", "text", false⟩], ["k"]⟩,
    .insert ⟨1, 1, 16384⟩ 16386 [[.string "1"], [.string "1.0"]]]

def spelledQuery : Select where
  relationOid := 16386
  relation := ⟨"public", "t"⟩
  filter := [⟨"k", .eq, .nat 1⟩]
  order := []
  limit := none

theorem spelledQuery_found : ∃ (db : Database) (s : StoredRelation) (rows : List Row),
    ((Console.new .standard 1).run spelledSteps).catalog.database ⟨1, 1, 16384⟩ = .ok db ∧
    db.relation 16386 = .ok s ∧ s.relation.kind = .table ∧ s.relation.primaryKey = ["k"] ∧
    ((Console.new .standard 1).run spelledSteps).catalog.select ⟨1, 1, 16384⟩ spelledQuery =
      .ok rows ∧ rows.length = 2 := by
  have hany : (((Console.new .standard 1).run spelledSteps).catalog.database
      ⟨1, 1, 16384⟩).toOption.any (fun db => (db.relation 16386).toOption.any fun s =>
        (Plan.resolve s.relation.columns spelledQuery).toOption.any fun plan =>
          decide (s.relation.kind = .table ∧ s.relation.primaryKey = ["k"] ∧
            plan.limit = none ∧ (s.rows.filter plan.accepts).length = 2)) = true := by
    decide +kernel
  generalize ((Console.new .standard 1).run spelledSteps).catalog = c at *
  cases hd : c.database ⟨1, 1, 16384⟩ with
  | error e => simp [hd, Except.toOption] at hany
  | ok db =>
    cases hr : db.relation 16386 with
    | error e => simp [hd, hr, Except.toOption] at hany
    | ok s =>
      cases hp : Plan.resolve s.relation.columns spelledQuery with
      | error e => simp [hd, hr, hp, Except.toOption] at hany
      | ok plan =>
        simp only [hd, hr, hp, Except.toOption, Option.any_some, decide_eq_true_eq] at hany
        obtain ⟨hk, hkey, hlimit, hl⟩ := hany
        have hne : s.relation.kind ≠ .materializedView := by
          rw [hk]
          decide
        refine ⟨db, s, plan.apply s.rows, rfl, hr, hk, hkey, ?_, ?_⟩
        · exact Catalog.select_eq_ok hd hr (fun he => absurd he hne) hp
        · rw [Plan.length_apply hlimit, hl]

theorem key_identifies_spelled : ∃ (s : StoredRelation) (rows : List Row),
    s.relation.primaryKey = ["k"] ∧ rows.length = 2 ∧
    (∀ batchSize, Outcome.ofEvents (((Console.new .standard 1).run spelledSteps).catalog.stream
      ⟨1, 1, 16384⟩ spelledQuery batchSize) = .completed rows) ∧
    rows.Pairwise fun a b => ∃ i ∈ s.relation.keyPlaces, (a.cell i).Respells (b.cell i) := by
  obtain ⟨db, s, found, hd, hr, hk, hkey, hselect, hl⟩ := spelledQuery_found
  obtain ⟨rows, hrows, hpairs, -⟩ := key_identifies .standard (.inr rfl) 1 spelledSteps _ 16386 db s
    hd hr (by rw [hk]; decide) (by rw [hkey]; decide) [.nat 1] (by rw [hkey]; rfl) spelledQuery rfl
    (by rw [Relation.keyConditions, hkey]; rfl) nofun
  have he := hrows 1
  rw [Catalog.ofEvents_stream, hselect] at he
  cases he
  exact ⟨s, found, hkey, hl, hrows, hpairs⟩

/-- Where a number is spelled in two ways, a primary key does not identify one row. -/
theorem key_found_twice : ¬∀ (start : Catalog), start = .empty ∨ start = .standard →
    ∀ (pageSize : Nat) (steps : List Step) (p : DatabasePath) (oid : Oid) (db : Database)
      (s : StoredRelation),
      ((Console.new start pageSize).run steps).catalog.database p = .ok db →
      db.relation oid = .ok s → s.relation.kind = .table → s.relation.primaryKey ≠ [] →
      ∀ values : List Json, values.length = s.relation.primaryKey.length →
        (∀ v ∈ values, v ≠ .null) →
        ∀ q : Select, q.relationOid = oid → q.filter = s.relation.keyConditions values →
          ∀ rows, ((Console.new start pageSize).run steps).catalog.select p q = .ok rows →
            rows.length ≤ 1 := by
  intro hunique
  obtain ⟨db, s, rows, hd, hr, hk, hkey, hselect, hl⟩ := spelledQuery_found
  have hle := hunique .standard (.inr rfl) 1 spelledSteps _ 16386 db s hd hr hk
    (by rw [hkey]; decide) [.nat 1] (by rw [hkey]; rfl) (by simp [Json.nat]) spelledQuery rfl
    (by rw [Relation.keyConditions, hkey]; rfl) rows hselect
  rw [hl] at hle
  exact absurd hle (by decide)

end DbConsole.Console
