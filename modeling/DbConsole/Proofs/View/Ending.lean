import DbConsole.Proofs.Catalog.Evolution
import DbConsole.Proofs.Query.Evaluation
import DbConsole.Proofs.View.Request
import DbConsole.Proofs.View.Session

namespace DbConsole

namespace Session

/-- A session that was opened for a request on a catalog, and that no fault has struck. -/
structure OpenedOn (c : Catalog) (request : ViewRequest) (s : Session) : Prop where
  prepared : request.prepare (c.relation request.target.database request.target.oid) =
    .ok (s.relation, s.query)
  slot : ∀ k ∈ s.slot, k = ⟨request.target.database⟩
  run : ∀ run ∈ s.run, run = ⟨⟨request.target.database⟩, run.batchSize, false⟩

/-- The session after its query has had a result: it shows the rows under the columns and the key
that it was opened with, or the error and nothing else. -/
inductive Ended (s : Session) : Except CatalogError (List Row) → Session → Prop where
  | completed (rows : List Row) (summary : Summary) (h : summary.OfRows s.relation rows) :
    Ended s (.ok rows) { s with run := none, state := .completed summary }
  | failed (e : CatalogError) (summary : Summary) (h : summary.OfError e.message) :
    Ended s (.error e) { s with run := none, state := .failed summary }

/-- What a query can come to in a catalog without faults: those of the rows that the relation has
there which meet the conditions, sorted and cut at the limit, unless it is a materialized view that
is not filled, or the database is no longer there. -/
inductive Ends (s : Session) (c : Catalog) (p : DatabasePath) (oid : Oid) :
    Except CatalogError (List Row) → Prop where
  | rows (db : Database) (stored : StoredRelation) (sorted : List Row)
    (hd : c.database p = .ok db) (hr : db.relation oid = .ok stored)
    (hc : stored.relation.columns = s.relation.columns)
    (hu : stored.relation.kind = .materializedView → stored.populated = true)
    (hs : StableSort (Precedes s.relation.columns s.query.order)
      (alike s.relation.columns s.query.order)
      (stored.rows.filter (·.meets s.relation.columns s.query.filter)) sorted) :
    Ends s c p oid (.ok (cut s.query.limit sorted))
  | notPopulated (db : Database) (stored : StoredRelation) (hd : c.database p = .ok db)
    (hr : db.relation oid = .ok stored) (hk : stored.relation.kind = .materializedView)
    (hu : stored.populated = false) :
    Ends s c p oid (.error (.refused (.notPopulated stored.relation.name.name)))
  | serverNotFound (hd : c.database p = .error (.serverNotFound p.server)) :
    Ends s c p oid (.error (.serverNotFound p.server))
  | databaseNotFound (hd : c.database p = .error (.databaseNotFound p.database)) :
    Ends s c p oid (.error (.databaseNotFound p.database))

variable {s s' : Session} {request : ViewRequest} {c c₀ : Catalog} {p : DatabasePath}
  {events : Connection → Nat → List StreamEvent}

theorem openedOn_acts (h : s.OpenedOn c request) (ha : s.Acts s') :
    s'.OpenedOn c request := by
  cases ha with
  | start size sql _ hs =>
    unfold start at hs
    split at hs
    · next k _ _ hk =>
      cases hs
      refine { h with slot := nofun, run := ?_ }
      intro run hr
      cases hr
      rw [h.slot k hk]
    · cases hs
    · cases hs
  | poll size =>
    unfold poll
    split
    · exact { h with }
    · exact h
  | fetch size page _ hf =>
    unfold fetch at hf
    split at hf <;> cases hf
    exact { h with }

theorem openedOn_close (h : s.OpenedOn c request) : s.close.OpenedOn c request :=
  { h with slot := nofun, run := nofun }

theorem settle_of_result (s : Session) (result : Except CatalogError (List Row)) :
    ∃ s', s.Ended result s' ∧
      ∀ (run : Run) (events : Connection → Nat → List StreamEvent), run.stalled = false →
        Outcome.ofEvents (events run.connection run.batchSize) = .ofResult result →
        { s with run := some run }.settle events = s' := by
  cases result with
  | ok rows =>
    refine ⟨_, .completed rows _ (Summary.ofRows_iff.mpr rfl), ?_⟩
    rintro ⟨k, batchSize, stalled⟩ events rfl he
    unfold settle
    dsimp only at he ⊢
    rw [he]
    rfl
  | error e =>
    refine ⟨_, .failed e _ (Summary.ofError_iff.mpr rfl), ?_⟩
    rintro ⟨k, batchSize, stalled⟩ events rfl he
    unfold settle
    dsimp only at he ⊢
    rw [he]
    rfl

theorem openedOn_ended {result : Except CatalogError (List Row)} (h : s.OpenedOn c request)
    (he : s.Ended result s') : s'.OpenedOn c request := by
  cases he <;> exact { h with run := nofun }

theorem openedOn_settle (h : s.OpenedOn c request)
    (he : ∀ k batchSize, ∃ result, Outcome.ofEvents (events k batchSize) = .ofResult result) :
    (s.settle events).OpenedOn c request := by
  cases hr : s.run with
  | none =>
    unfold settle
    rw [hr]
    exact h
  | some run =>
    obtain ⟨result, hresult⟩ := he run.connection run.batchSize
    have hs : run.stalled = false := by rw [h.run run hr]
    obtain ⟨s', hended, hsettle⟩ := s.settle_of_result result
    have hsame : { s with run := some run } = s := by rw [← hr]
    rw [← hsame, hsettle run events hs hresult]
    exact openedOn_ended h hended

/-- What a request on a relation finds later, in whatever has become of the catalog. -/
theorem ends_select (hc : c₀.WellFormed) (hl : c₀.Leads c) {oid : Oid}
    (hprepare : request.prepare (c₀.relation p oid) = .ok (s.relation, s.query)) :
    s.Ends c p oid (c.select p s.query) := by
  obtain ⟨hf, _, hq⟩ := ViewRequest.prepare_eq_ok.mp hprepare
  obtain ⟨db₀, hd₀, hf⟩ := bind_eq_ok.mp hf
  obtain ⟨stored₀, hr₀, hf⟩ := bind_eq_ok.mp hf
  have hs₀ : stored₀.relation = s.relation := Except.ok.inj hf
  have hp₀ := Catalog.database_eq_ok.mp hd₀
  have hfind₀ := Database.relation_eq_ok.mp hr₀
  have hsound : s.relation.Sound := hs₀ ▸ (hc.databases hp₀).relationSound hfind₀
  have hoid : s.query.relationOid = oid := by
    have ho := (hc.databases hp₀).relationOid hfind₀
    rw [(ViewRequest.select_eq_ok hq).2, ← hs₀]
    exact ho
  cases hp : c.database? p with
  | none =>
    have hg : (c.groups.find? p.group).isSome := by
      obtain ⟨server, hserver, _⟩ := Catalog.server?_of_database? hp₀
      obtain ⟨servers, hservers, _⟩ := Option.bind_eq_some_iff.mp hserver
      exact hl.groups (Option.isSome_of_mem hservers)
    rcases Catalog.database_error hg hp with hd | hd
    · rw [Catalog.select_error hd]
      exact .serverNotFound hd
    · rw [Catalog.select_error hd]
      exact .databaseNotFound hd
  | some db =>
    have hd := Catalog.database_eq_ok.mpr hp
    -- What stands there now under the old number is the old database: none is given out twice.
    obtain ⟨db₁, hp₁, hkeeps⟩ := hl.databases hp
      (hc.numbered.below _ (Catalog.database_mem_oids hp₀))
    cases Option.some.inj (hp₀.symm.trans hp₁)
    obtain ⟨stored, hfind, hcore⟩ := hkeeps _ _ hfind₀
    have hr := Database.relation_eq_ok.mpr hfind
    have hr' : db.relation s.query.relationOid = .ok stored := hoid ▸ hr
    have hcolumns : stored.relation.columns = s.relation.columns := by
      rw [(Relation.core_eq_iff.mp hcore).2.2.2.2.1, hs₀]
    by_cases hn : stored.relation.kind = .materializedView ∧ stored.populated = false
    · rw [Catalog.select_unpopulated hd hr' hn.1 hn.2]
      exact .notPopulated db stored hd hr hn.1 hn.2
    · have hu : stored.relation.kind = .materializedView → stored.populated = true := by
        simpa using hn
      obtain ⟨hfilter, horder⟩ := ViewRequest.select_columns hq hsound
      rw [← hcolumns] at hfilter horder
      obtain ⟨plan, hplan⟩ := Plan.resolve_eq_ok hfilter horder
      obtain ⟨sorted, hsorted⟩ : ∃ sorted, SortedBy (Plan.compareRows plan.order)
          (stored.rows.filter (·.meets stored.relation.columns s.query.filter)) sorted :=
        ⟨_, .mergeSort _⟩
      have hlocates := (Plan.resolve_inv hplan).2.1
      rw [Catalog.select_eq_ok hd hr' hu hplan, Plan.apply_of_sortedBy hplan hsorted]
      rw [hcolumns] at hsorted hlocates
      exact .rows db stored sorted hd hr hcolumns hu (Plan.stableSort_of_sortedBy hlocates hsorted)

end Session

end DbConsole
