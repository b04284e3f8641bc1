import DbConsole.Proofs.Catalog.Programs
import DbConsole.Proofs.Console.Isolation

namespace DbConsole

/-- A call of the catalog that may fail. -/
inductive Operation where
  | placeServer (group server : UInt32) (name : String)
  | createDatabase (group server : UInt32) (name : String)
  | createSchema (p : DatabasePath) (name : String)
  | createRelation (p : DatabasePath) (draft : Catalog.RelationDraft)
  | createTable (p : DatabasePath) (schema name : String) (columns : List Column)
      (primaryKey : List String)
  | createMaterializedView (p : DatabasePath) (schema name : String) (columns : List Column)
      (populated : Bool)
  | refresh (p : DatabasePath) (oid : Oid) (rows : List Row)
  | insert (p : DatabasePath) (oid : Oid) (rows : List Row)
  | createTrigger (p : DatabasePath) (tableOid : Oid) (name function : String)
  | setAvailable (group server : UInt32) (available : Bool)

def Operation.step : Operation → Step
  | .placeServer g s name => .placeServer g s name
  | .createDatabase g s name => .createDatabase g s name
  | .createSchema p name => .createSchema p name
  | .createRelation p draft => .createRelation p draft
  | .createTable p schema name columns primaryKey =>
    .createRelation p ⟨schema, name, .table, columns, primaryKey⟩
  | .createMaterializedView p schema name columns populated =>
    .createMaterializedView p schema name columns populated
  | .refresh p oid rows => .refresh p oid rows
  | .insert p oid rows => .insert p oid rows
  | .createTrigger p tableOid name function => .createTrigger p tableOid name function
  | .setAvailable g s available => .setAvailable g s available

/-- Whether what was asked for has ended with an error, or has broken down. -/
def Answer.fails : Answer → Bool
  | .failed _ | .broken => true
  | _ => false

namespace Console

open Catalog

def after {α : Type} (c : Console) (answer : α → Answer) :
    EStateM.Result CatalogError Catalog α → Answer × Console
  | .ok a catalog => (answer a, { c with catalog })
  | .error e catalog => (.failed (.catalog e), { c with catalog })

def afterInsert (c : Console) : EStateM.Result InsertError Catalog Nat → Answer × Console
  | .ok n catalog => (.number n, { c with catalog })
  | .error (.refused e) catalog => (.failed (.catalog e), { c with catalog })
  | .error .shortStoredRow catalog => (.broken, { c with catalog })

def perform (c : Console) : Operation → Answer × Console
  | .placeServer g s name => c.after (fun _ => .nothing) (placingServer g s name c.catalog)
  | .createDatabase g s name => c.after .uint32 (creatingDatabase g s name c.catalog)
  | .createSchema p name => c.after .uint32 (creatingSchema p name c.catalog)
  | .createRelation p draft => c.after .uint32 (creatingRelation p draft c.catalog)
  | .createTable p schema name columns primaryKey =>
    c.after .uint32 (creatingRelation p ⟨schema, name, .table, columns, primaryKey⟩ c.catalog)
  | .createMaterializedView p schema name columns populated =>
    c.after .uint32 (creatingMaterializedView p schema name columns populated c.catalog)
  | .refresh p oid rows => c.after (fun _ => .nothing) (refreshing p oid rows c.catalog)
  | .insert p oid rows => c.afterInsert (inserting p oid rows c.catalog)
  | .createTrigger p tableOid name function =>
    c.after .uint32 (creatingTrigger p tableOid name function c.catalog)
  | .setAvailable g s available =>
    c.after (fun _ => .nothing) (settingAvailable g s available c.catalog)

variable {c : Console}

theorem after_ofExcept {α : Type} (c : Console) (answer : α → Answer)
    (x : Except CatalogError (α × Catalog)) :
    c.after answer (Program.ofExcept c.catalog x) = c.changeCatalog answer x := by
  cases x <;> rfl

theorem afterInsert_ofExcept (c : Console) (p : DatabasePath) (oid : Oid) (rows : List Row) :
    c.afterInsert (Program.ofExcept c.catalog (c.catalog.insert p oid rows)) =
      c.stepInsert p oid rows := by
  unfold stepInsert
  cases c.catalog.insert p oid rows with
  | ok r => rfl
  | error e => cases e <;> rfl

/-- What an operation does is what its program does. -/
theorem step_eq_perform (c : Console) (o : Operation) : c.step o.step = c.perform o := by
  cases o with
  | placeServer g s name =>
    rw [perform, placingServer_eq, after_ofExcept]
    rfl
  | createDatabase g s name =>
    rw [perform, creatingDatabase_eq, after_ofExcept]
    rfl
  | createSchema p name =>
    rw [perform, creatingSchema_eq, after_ofExcept]
    rfl
  | createRelation | createTable =>
    rw [perform, creatingRelation_eq, after_ofExcept]
    rfl
  | createMaterializedView p schema name columns populated =>
    rw [perform, creatingMaterializedView_eq, after_ofExcept]
    rfl
  | refresh p oid rows =>
    rw [perform, refreshing_eq, after_ofExcept]
    rfl
  | insert p oid rows =>
    rw [perform, inserting_eq, afterInsert_ofExcept]
    rfl
  | createTrigger p tableOid name function =>
    rw [perform, creatingTrigger_eq, after_ofExcept]
    rfl
  | setAvailable g s available =>
    rw [perform, settingAvailable_eq, after_ofExcept]
    rfl

theorem changeCatalog_of_fails {α : Type} {answer : α → Answer} (ha : ∀ a, (answer a).fails = false)
    {x : Except CatalogError (α × Catalog)} (h : (c.changeCatalog answer x).1.fails) :
    (c.changeCatalog answer x).2 = c := by
  cases x with
  | ok r => exact absurd h (Bool.eq_false_iff.mp (ha r.1))
  | error e => rfl

theorem alterCatalog_of_fails {x : Except CatalogError Catalog}
    (h : (c.alterCatalog x).1.fails) : (c.alterCatalog x).2 = c :=
  changeCatalog_of_fails (fun _ => rfl) h

theorem stepInsert_of_fails {p : DatabasePath} {oid : Oid} {rows : List Row}
    (h : (c.stepInsert p oid rows).1.fails) : (c.stepInsert p oid rows).2 = c := by
  unfold stepInsert at h ⊢
  cases hi : c.catalog.insert p oid rows with
  | ok r =>
    rw [hi] at h
    cases h
  | error e => cases e <;> rfl

theorem step_of_fails {o : Operation} (h : (c.step o.step).1.fails) :
    (c.step o.step).2 = c := by
  cases o with
  | placeServer | refresh | setAvailable => exact alterCatalog_of_fails h
  | createDatabase | createSchema | createRelation | createTable | createMaterializedView
  | createTrigger => exact changeCatalog_of_fails (fun _ => rfl) h
  | insert => exact stepInsert_of_fails h

/-- A call of the catalog that fails, whichever it is and at whichever of its steps, leaves the
console as it was, even though its program takes nothing back: the catalog with all rows, which
servers let connections in, and the number that is given out next. So every later step is answered
as if the call had not been made. -/
theorem failed_operation_changes_nothing (c : Console) (o : Operation) :
    c.step o.step = c.perform o ∧
    ((c.perform o).1.fails → (c.perform o).2 = c ∧
      ∀ later, c.answers (o.step :: later) = (c.perform o).1 :: c.answers later) := by
  rw [← step_eq_perform]
  refine ⟨rfl, fun h => ⟨step_of_fails h, fun later => ?_⟩⟩
  rw [answers, step_of_fails h]

/-- A materialized view with a key, one of whose rows has no cell for it. -/
def shortRowSteps : List Step :=
  [.createRelation ⟨1, 1, 16384⟩ ⟨"public", "m", .materializedView, [⟨"id", "text", false⟩], ["id"]⟩,
    .refresh ⟨1, 1, 16384⟩ 16386 [[]],
    .createRelation ⟨1, 1, 16384⟩ ⟨"public", "t", .table, [⟨"id", "text", false⟩], ["id"]⟩]

def failingInserts : List Operation :=
  [.insert ⟨1, 1, 16384⟩ 16386 [[.nat 1]], .insert ⟨1, 1, 16384⟩ 16387 [[.nat 1], [.nat 1]]]

theorem failed_operation_changes_nothing_insert : ∃ c : Console, ∀ o ∈ failingInserts,
    (c.perform o).1.fails ∧ (c.perform o).2 = c ∧
    c.answers [o.step, .createSchema ⟨1, 1, 16384⟩ "s"] = [(c.perform o).1, .number 16388] := by
  have hfails : ∀ o ∈ failingInserts,
      (((Console.new .standard 1).run shortRowSteps).perform o).1.fails := by
    decide +kernel
  have hschema : ((Console.new .standard 1).run shortRowSteps).answers
      [.createSchema ⟨1, 1, 16384⟩ "s"] = [.number 16388] := rfl
  refine ⟨(Console.new .standard 1).run shortRowSteps, fun o ho => ?_⟩
  obtain ⟨hsame, hlater⟩ :=
    (failed_operation_changes_nothing ((Console.new .standard 1).run shortRowSteps) o).2
      (hfails o ho)
  exact ⟨hfails o ho, hsame, (hlater _).trans (congrArg _ hschema)⟩

end Console

end DbConsole
