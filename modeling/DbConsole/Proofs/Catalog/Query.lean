import DbConsole.Catalog.Query
import DbConsole.Proofs.Catalog.Lookup

namespace DbConsole

/-- What comes of a query with a result, however it is handed out. -/
def Outcome.ofResult : Except CatalogError (List Row) → Outcome
  | .ok rows => .completed rows
  | .error e => .failed e

theorem collect_chunks (size : Nat) (l rows : List Row) :
    Outcome.collect rows ((chunks size l).map .batch) = .completed (rows ++ l) := by
  induction l using chunks.induct size generalizing rows with
  | case1 =>
    rw [chunks, List.append_nil]
    rfl
  | case2 a rest ih =>
    have hd : (a :: rest.take size) ++ rest.drop size = a :: rest := by
      rw [List.cons_append, List.take_append_drop]
    rw [chunks, List.map_cons, Outcome.collect, ih, List.append_assoc, hd]

theorem Catalog.ofEvents_stream (c : Catalog) (p : DatabasePath) (q : Select) (batchSize : Nat) :
    Outcome.ofEvents (c.stream p q batchSize) = .ofResult (c.select p q) := by
  unfold Outcome.ofEvents stream
  cases c.select p q with
  | ok rows => exact collect_chunks (batchSize - 1) rows []
  | error e => rfl

theorem exists_mapM_eq_ok {ε α β : Type} {f : α → Except ε β} {l : List α}
    (h : ∀ a ∈ l, ∃ b, f a = .ok b) : ∃ bs, l.mapM f = .ok bs := by
  induction l with
  | nil => exact ⟨[], rfl⟩
  | cons a rest ih =>
    obtain ⟨b, hb⟩ := h a (.head _)
    obtain ⟨bs, hbs⟩ := ih fun a' ha => h a' (.tail _ ha)
    rw [List.mapM_cons]
    exact ⟨b :: bs, bind_eq_ok.mpr ⟨b, hb, bind_eq_ok.mpr ⟨bs, hbs, rfl⟩⟩⟩

namespace Plan

variable {columns : List Column} {q : Select}

theorem place_eq_ok_iff {name : String} {i : Nat} :
    place columns name = .ok i ↔ columns.findIdx? (·.name = name) = some i := by
  cases h : columns.findIdx? (·.name = name) <;> simp only [place, h] <;> simp

theorem place_eq_ok {name : String} (h : ∃ c ∈ columns, c.name = name) :
    ∃ i, place columns name = .ok i := by
  unfold place
  split
  · exact ⟨_, rfl⟩
  · next hn =>
    obtain ⟨c, hc, rfl⟩ := h
    have hne := List.findIdx?_eq_none_iff.mp hn c hc
    simp at hne

theorem resolve_eq_ok (hf : ∀ c ∈ q.filter, ∃ column ∈ columns, column.name = c.column)
    (ho : ∀ k ∈ q.order, ∃ column ∈ columns, column.name = k.column) :
    ∃ plan, resolve columns q = .ok plan := by
  have hf' : ∀ c ∈ q.filter, ∃ b, (do return (← place columns c.column, c) :
      Except CatalogError (Nat × Condition)) = .ok b := by
    intro c hc
    obtain ⟨i, hi⟩ := place_eq_ok (hf c hc)
    exact ⟨(i, c), bind_eq_ok.mpr ⟨i, hi, rfl⟩⟩
  have ho' : ∀ k ∈ q.order, ∃ b, (do return (← place columns k.column, k.descending) :
      Except CatalogError (Nat × Bool)) = .ok b := by
    intro k hk
    obtain ⟨i, hi⟩ := place_eq_ok (ho k hk)
    exact ⟨(i, k.descending), bind_eq_ok.mpr ⟨i, hi, rfl⟩⟩
  obtain ⟨filter, hfilter⟩ := exists_mapM_eq_ok hf'
  obtain ⟨order, horder⟩ := exists_mapM_eq_ok ho'
  exact ⟨⟨filter, order, q.limit⟩,
    bind_eq_ok.mpr ⟨filter, hfilter, bind_eq_ok.mpr ⟨order, horder, rfl⟩⟩⟩

end Plan

namespace Catalog

variable {c : Catalog} {p : DatabasePath} {q : Select}

theorem select_setAvailable (c : Catalog) (g s : UInt32) (available : Bool) (p : DatabasePath)
    (q : Select) : (c.modifyServer g s fun server => { server with available }).select p q =
      c.select p q := by
  unfold select
  rw [database_setAvailable]

theorem database_error (hg : (c.groups.find? p.group).isSome) (hp : c.database? p = none) :
    c.database p = .error (.serverNotFound p.server) ∨
      c.database p = .error (.databaseNotFound p.database) := by
  obtain ⟨servers, hg⟩ := Option.isSome_iff_exists.mp hg
  rw [database_eq, hg]
  cases hs : servers.find? p.server with
  | none => exact .inl (by simp only [hs])
  | some server =>
    have hd : server.databases.find? p.database = none := by
      simpa [database?, server?, hg, hs] using hp
    exact .inr (by simp only [hs, hd])

variable {db : Database} {stored : StoredRelation}

theorem select_error {e : CatalogError} (hd : c.database p = .error e) :
    c.select p q = .error e := by
  unfold select
  rw [hd]
  rfl

theorem select_unpopulated (hd : c.database p = .ok db)
    (hr : db.relation q.relationOid = .ok stored) (hk : stored.relation.kind = .materializedView)
    (hu : stored.populated = false) :
    c.select p q = .error (.refused (.notPopulated stored.relation.name.name)) := by
  simp [select, hd, hr, hk, hu, bind, Except.bind, throw, throwThe, MonadExceptOf.throw]

theorem select_eq_ok {plan : Plan} (hd : c.database p = .ok db)
    (hr : db.relation q.relationOid = .ok stored)
    (hu : stored.relation.kind = .materializedView → stored.populated = true)
    (hp : Plan.resolve stored.relation.columns q = .ok plan) :
    c.select p q = .ok (plan.apply stored.rows) := by
  simpa [select, hd, hr, hp, bind, Except.bind, pure, Except.pure] using hu

end Catalog

end DbConsole
