import DbConsole.View.Session
import Mathlib.Data.List.Forall2

namespace DbConsole

/-- A column of a relation as results describe it. -/
structure ResultColumn.Describes (info : ResultColumn) (r : Relation) (column : Column) :
    Prop where
  name : info.name = column.name
  typeName : info.typeName = column.typeName
  notNull : info.notNull = column.notNull
  isPrimaryKey : info.isPrimaryKey = decide (column.name ∈ r.primaryKey)

theorem ResultColumn.describes_iff {info : ResultColumn} {r : Relation} {column : Column} :
    info.Describes r column ↔ ⟨column.name, column.typeName, column.notNull,
      r.primaryKey.contains column.name⟩ = info := by
  constructor
  · obtain ⟨name, typeName, notNull, isPrimaryKey⟩ := info
    rintro ⟨rfl, rfl, rfl, rfl⟩
    rw [List.contains_eq_mem]
  · rintro rfl
    exact ⟨rfl, rfl, rfl, List.contains_eq_mem _ _⟩

theorem ResultColumn.forall₂_describes {r : Relation} {infos : List ResultColumn} :
    List.Forall₂ (fun column info => info.Describes r column) r.columns infos ↔
      infos = ofRelation r := by
  simp only [describes_iff]
  rw [ofRelation, eq_comm, ← List.forall₂_map_left_iff, List.forall₂_eq_eq_eq]

namespace Summary

/-- What there is to show of a query on a relation that has come to its end with these rows. -/
structure OfRows (summary : Summary) (r : Relation) (rows : List Row) : Prop where
  status : summary.status = "SELECT " ++ toString rows.length
  rows : summary.rows = rows
  columns : List.Forall₂ (fun column info => info.Describes r column) r.columns summary.columns
  primaryKey : summary.primaryKey = r.primaryKey

/-- What there is to show of a query that has failed. -/
structure OfError (summary : Summary) (message : String) : Prop where
  status : summary.status = message
  rows : summary.rows = []
  columns : summary.columns = []
  primaryKey : summary.primaryKey = []

theorem ofRows_iff {summary : Summary} {r : Relation} {rows : List Row} :
    summary.OfRows r rows ↔
      summary = .success rows (ResultColumn.ofRelation r) r.primaryKey := by
  constructor
  · intro h
    have hcolumns := ResultColumn.forall₂_describes.mp h.columns
    obtain ⟨status, columns, primaryKey, rows'⟩ := summary
    simp only [success, mk.injEq]
    exact ⟨by simpa [toString] using h.status, hcolumns, h.primaryKey, h.rows⟩
  · rintro rfl
    exact ⟨by simp [success, toString], rfl, ResultColumn.forall₂_describes.mpr rfl, rfl⟩

theorem ofError_iff {summary : Summary} {message : String} :
    summary.OfError message ↔ summary = .failure message := by
  constructor
  · obtain ⟨status, columns, primaryKey, rows⟩ := summary
    rintro ⟨rfl, rfl, rfl, rfl⟩
    rfl
  · rintro rfl
    exact ⟨rfl, rfl, rfl, rfl⟩

end Summary

namespace Session

/-- What starting, polling and fetching make of a session. -/
inductive Acts (s : Session) : Session → Prop where
  | start (size : Nat) (sql : String) (s' : Session) (h : s.start size = .ok (sql, s')) : Acts s s'
  | poll (size : Nat) : Acts s (s.poll size).2
  | fetch (size : Nat) (page : Page) (s' : Session) (h : s.fetch size = .ok (page, s')) : Acts s s'

/-- A property that every session has when it is opened and keeps whatever is done with it. -/
structure Invariant (P : Session → Prop) : Prop where
  opened : ∀ id r q k, P (.new id r q k)
  acts : ∀ {s s'}, P s → s.Acts s' → P s'
  closed : ∀ {s}, P s → P s.close
  settled : ∀ {s} (events), P s → P (s.settle events)

variable {s s' : Session}

/-- Whether the session has neither been closed nor come to a result. -/
def isLive (s : Session) : Bool :=
  !s.cancelled && (s.state.phase == .initialized || s.state.phase == .running)

/-- A live session has its connection in the slot until it is started and then with its run; no
other session has one. -/
structure Connected (s : Session) : Prop where
  slot : s.slot.isSome = (!s.cancelled && s.state.phase == .initialized)
  run : s.run.isSome = (!s.cancelled && s.state.phase == .running)

theorem Connected.connections_eq (h : s.Connected) : s.connections = if s.isLive then 1 else 0 := by
  unfold connections isLive
  rw [h.slot, h.run]
  cases s.cancelled <;> cases s.state.phase <;> rfl

theorem connected_acts (h : s.Connected) (ha : s.Acts s') : s'.Connected := by
  cases ha with
  | start size sql _ hs =>
    unfold start at hs
    split at hs
    · next hst hc _ =>
      cases hs
      exact ⟨by simp [hc, SessionState.phase], by simp [hc, SessionState.phase]⟩
    · cases hs
    · cases hs
  | poll size =>
    unfold poll
    split <;> exact ⟨h.slot, h.run⟩
  | fetch size page _ hf =>
    unfold fetch at hf
    split at hf <;> cases hf
    exact ⟨h.slot, h.run⟩

theorem phase_resultState? {o : Outcome} {state : SessionState}
    (h : s.resultState? o = some state) : state.phase = .completed ∨ state.phase = .failed := by
  cases o <;> cases h
  · exact .inl rfl
  · exact .inr rfl
  · exact .inr rfl

theorem connected_settle (h : s.Connected) (events : Connection → Nat → List StreamEvent) :
    (s.settle events).Connected := by
  unfold settle
  split
  · next k batchSize hr =>
    have hrun := h.run
    rw [hr] at hrun
    have hp : s.cancelled = false ∧ s.state.phase = .running := by simpa using hrun.symm
    split
    · next state hs =>
      have hslot : s.slot.isSome = false := by simp [h.slot, hp.2]
      rcases phase_resultState? hs with he | he
      · exact ⟨by simp [he, hslot], by simp [he]⟩
      · exact ⟨by simp [he, hslot], by simp [he]⟩
    · exact ⟨h.slot, hrun⟩
  · exact h

theorem connected_invariant : Invariant Connected where
  opened _ _ _ _ := ⟨rfl, rfl⟩
  acts := connected_acts
  closed _ := ⟨rfl, rfl⟩
  settled events h := connected_settle h events

theorem connections_close (s : Session) : s.close.connections = 0 := rfl

theorem connections_settle_le (s : Session) (events : Connection → Nat → List StreamEvent) :
    (s.settle events).connections ≤ s.connections := by
  unfold settle
  split
  · next hr =>
    unfold connections
    split <;> simp [hr]
  · exact Nat.le_refl _

theorem connections_acts (h : s.Connected) (ha : s.Acts s') : s'.connections = s.connections := by
  cases ha with
  | start size sql _ hs =>
    have hn : s.run.isSome = false := by
      unfold start at hs
      split at hs
      · next hst hc _ =>
        rw [h.run, hst, hc]
        rfl
      · cases hs
      · cases hs
    unfold start at hs
    split at hs
    · next hk =>
      cases hs
      simp [connections, hk, hn]
    · cases hs
    · cases hs
  | poll size =>
    unfold poll
    split <;> rfl
  | fetch size page _ hf =>
    unfold fetch at hf
    split at hf <;> cases hf
    rfl

end Session

end DbConsole
