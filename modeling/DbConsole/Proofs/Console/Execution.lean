import DbConsole.Proofs.Catalog.Execution
import DbConsole.Proofs.Console.Step

namespace DbConsole.Console

variable {c c' : Console} {k : Connection} {db : Database}

def putDatabase (c : Console) (p : DatabasePath) (db : Database) : Console :=
  { c with catalog := c.catalog.putDatabase p db }

theorem execute_eq (hf : c.faults.execute = .none)
    (hp : c.catalog.database k.database = .ok db) (statements : List Statement) :
    c.execute k statements = (db.applyAll statements).map (c.putDatabase k.database) := by
  unfold execute
  rw [hf, Catalog.execute_eq hp]
  cases h : db.applyAll statements <;> rfl

theorem execute_missing {e : CatalogError} (hf : c.faults.execute = .none)
    (hp : c.catalog.database k.database = .error e) (statements : List Statement) :
    c.execute k statements = .error e := by
  unfold execute Catalog.execute
  rw [hf, hp]
  rfl

theorem execute_append (hf : c.faults.execute = .none) (k : Connection)
    (statements more : List Statement) : c.execute k (statements ++ more) =
      c.execute k statements >>= fun c => c.execute k more := by
  unfold execute
  rw [hf]
  change Catalog.execute _ _ _ >>= _ = (Catalog.execute _ _ _ >>= _) >>= _
  rw [Catalog.execute_append]
  cases c.catalog.execute k.database statements with
  | error e => rfl
  | ok catalog =>
    change _ = Faults.strike c.faults.execute _ >>= _
    rw [hf]
    rfl

/-- Statements are executed all or none: as they come to when they are applied one after the other,
or not at all if one of them fails or the database is gone. They may be handed over in pieces. Only
the objects that they are about change, and of these only what statements can change. -/
theorem execute_atomic (c : Console) (k : Connection) (hf : c.faults.execute = .none) :
    (∀ e, c.catalog.database k.database = .error e → ∀ statements,
      c.execute k statements = .error e) ∧
    (∀ db, c.catalog.database k.database = .ok db → ∀ statements, ∃ result,
      db.Applies statements result ∧
      c.execute k statements = result.map (c.putDatabase k.database) ∧
      ∀ db', result = .ok db' → db.Frame statements db' ∧
        (c.putDatabase k.database db').catalog.database k.database = .ok db' ∧
        c.catalog.Beyond k.database (c.putDatabase k.database db').catalog) ∧
    (∀ statements more, c.execute k (statements ++ more) =
      c.execute k statements >>= fun c => c.execute k more) ∧
    ∀ link, c.links.find? link = some k → ∀ statements, c.step (.execute link statements) =
      match c.execute k statements with
      | .ok c' => (.nothing, c')
      | .error e => (.failed (.catalog e), c) := by
  refine ⟨fun e he => execute_missing hf he, fun db hp statements => ?_, execute_append hf k,
    fun link hk statements => ?_⟩
  · have happlies := db.applies_applyAll statements
    refine ⟨_, happlies, execute_eq hf hp statements, fun db' hr => ⟨happlies.frame hr, ?_, ?_⟩⟩
    · exact Catalog.database_putDatabase_self hp db'
    · exact Catalog.beyond_putDatabase c.catalog k.database db'
  · have hstep : c.step (.execute link statements) = c.stepExecute k statements := by
      simp only [step, withLink, hk]
    rw [hstep]
    unfold stepExecute
    cases c.execute k statements <;> rfl

def triggerSteps : List Step :=
  [.createRelation ⟨1, 1, 16384⟩ ⟨"public", "t", .table, [⟨"id", "text", false⟩], ["id"]⟩,
    .createTrigger ⟨1, 1, 16384⟩ 16386 "a" "f", .createTrigger ⟨1, 1, 16384⟩ 16386 "b" "f",
    .connect "k" ⟨1, 1, 16384⟩]

def rename (oid : Oid) (old new : String) : Statement :=
  .renameTrigger oid ⟨"public", "t"⟩ old new

def swapping : List Statement :=
  [rename 16387 "a" "c", rename 16388 "b" "a", rename 16387 "c" "b"]

/-- Two triggers swap their names, unless a third statement comes after that and fails. -/
theorem execute_atomic_swapping : ∃ c c' : Console,
    c.execute ⟨⟨1, 1, 16384⟩⟩ swapping = .ok c' ∧
    [16387, 16388].map (fun oid => (c'.catalog.trigger ⟨1, 1, 16384⟩ 16386 oid).toOption.map
      (·.name)) = [some "b", some "a"] ∧
    (c.step (.execute "k" (swapping ++ [rename 16388 "a" "b"]))).2 = c := by
  have hf : ((Console.new .standard 1).run triggerSteps).faults.execute = .none := rfl
  have hk : ((Console.new .standard 1).run triggerSteps).links.find? "k" =
      some ⟨⟨1, 1, 16384⟩⟩ := by
    decide +kernel
  have hany : (((Console.new .standard 1).run triggerSteps).execute ⟨⟨1, 1, 16384⟩⟩
      swapping).toOption.any (fun c' => decide ([16387, 16388].map (fun oid =>
        (c'.catalog.trigger ⟨1, 1, 16384⟩ 16386 oid).toOption.map (·.name)) =
          [some "b", some "a"]) &&
        !(c'.execute ⟨⟨1, 1, 16384⟩⟩ [rename 16388 "a" "b"]).isOk) = true := by
    decide +kernel
  generalize (Console.new .standard 1).run triggerSteps = c at *
  obtain ⟨_, _, happend, hstep⟩ := execute_atomic c ⟨⟨1, 1, 16384⟩⟩ hf
  cases hs : c.execute ⟨⟨1, 1, 16384⟩⟩ swapping with
  | error e =>
    rw [hs] at hany
    cases hany
  | ok c' =>
    rw [hs] at hany
    obtain ⟨hnames, hfails⟩ := (Bool.and_eq_true _ _).mp hany
    refine ⟨c, c', hs, of_decide_eq_true hnames, ?_⟩
    rw [hstep "k" hk, happend, hs]
    change (match c'.execute _ _ with
      | .ok c' => ((.nothing : Answer), c')
      | .error e => (.failed (.catalog e), c)).2 = c
    cases hc : c'.execute ⟨⟨1, 1, 16384⟩⟩ [rename 16388 "a" "b"] with
    | error e => rfl
    | ok c'' => simp [hc, Except.isOk, Except.toBool] at hfails

end DbConsole.Console
