import DbConsole.View.Request
import DbConsole.Proofs.Catalog.WellFormed

namespace DbConsole.ViewRequest

variable {request : ViewRequest} {r : Relation} {q : Select}

theorem prepare_eq_ok {found : Except CatalogError Relation} :
    request.prepare found = .ok (r, q) ↔
      found = .ok r ∧ r.kind = request.target.kind.relationKind ∧ request.select r = .ok q := by
  unfold prepare
  simp only [bind_eq_ok, mapError_eq_ok]
  constructor
  · rintro ⟨r', hr, h⟩
    split at h
    · obtain ⟨_, h, _⟩ := bind_eq_ok.mp h
      cases h
    · next hk =>
      obtain ⟨q', hq, h⟩ := bind_eq_ok.mp h
      cases h
      exact ⟨hr, not_not.mp hk, mapError_eq_ok.mp hq⟩
  · rintro ⟨hr, hk, hq⟩
    refine ⟨r, hr, ?_⟩
    simp [hk, hq, Except.mapError, bind, Except.bind, pure, Except.pure]

theorem prepare_otherKind (hk : r.kind ≠ request.target.kind.relationKind) :
    request.prepare (.ok r) =
      .error (.invalidTarget (.otherKind r.name r.kind request.target.kind)) := by
  simp [prepare, hk, Except.mapError, bind, Except.bind, throw, throwThe, MonadExceptOf.throw]

theorem prepare_ofKind (hk : r.kind = request.target.kind.relationKind) :
    request.prepare (.ok r) =
      ((request.select r).mapError .invalidFilter).map fun q => (r, q) := by
  cases hs : request.select r <;>
    simp [prepare, hk, hs, Except.mapError, Except.map, bind, Except.bind, pure, Except.pure]

/-- A column that a condition of the filter is about and that the relation does not have, with only
conditions about columns that it has before. -/
def FirstUnknown (filter : List Condition) (r : Relation) (name : String) : Prop :=
  ∃ known condition rest, filter = known ++ condition :: rest ∧ condition.column = name ∧
    r.column? name = none ∧ ∀ c ∈ known, (r.column? c.column).isSome

theorem find?_unknown {filter : List Condition} {condition : Condition} :
    filter.find? (fun c => (r.column? c.column).isNone) = some condition →
      FirstUnknown filter r condition.column := by
  intro h
  obtain ⟨hu, known, rest, hsplit, hk⟩ := List.find?_eq_some_iff_append.mp h
  refine ⟨known, condition, rest, hsplit, rfl, Option.isNone_iff_eq_none.mp hu, fun c hc => ?_⟩
  simpa [Option.isSome_iff_ne_none] using hk c hc

theorem find?_known {filter : List Condition} (h : ∀ c ∈ filter, (r.column? c.column).isSome) :
    filter.find? (fun c => (r.column? c.column).isNone) = none := by
  refine List.find?_eq_none.mpr fun c hc => ?_
  simp [Option.isSome_iff_ne_none.mp (h c hc)]

theorem select_missing (hm : request.mode = .filteredRows) (he : request.filter = []) :
    request.select r = .error .missing := by
  unfold select checkFilter
  rw [hm, he]
  rfl

theorem select_unexpected (hm : request.mode ≠ .filteredRows) (he : request.filter ≠ []) :
    request.select r = .error .unexpected := by
  unfold select checkFilter
  cases hf : request.filter with
  | nil => exact (he hf).elim
  | cons c rest =>
    cases hmode : request.mode with
    | filteredRows => exact (hm hmode).elim
    | firstRows | lastRows | allRows => rfl

theorem checkFilter_ok {mode : ViewMode} {filter : List Condition}
    (h : mode = .filteredRows ↔ filter ≠ []) : checkFilter mode filter = .ok () := by
  cases mode <;> cases filter <;> simp [checkFilter] at h ⊢

theorem select_unknown {name : String} (hm : request.mode = .filteredRows)
    (h : FirstUnknown request.filter r name) :
    request.select r = .error (.unknownColumn name) := by
  obtain ⟨known, condition, rest, hsplit, rfl, hu, hk⟩ := h
  have hc : checkFilter request.mode request.filter = .ok () := by
    refine checkFilter_ok ⟨fun _ => ?_, fun _ => hm⟩
    simp [hsplit]
  have hfind : request.filter.find? (fun c => (r.column? c.column).isNone) = some condition := by
    refine List.find?_eq_some_iff_append.mpr ⟨by simp [hu], known, rest, hsplit, fun c hc => ?_⟩
    simpa using hk c hc
  unfold select
  rw [hc, hfind]
  rfl

theorem select_known (hm : request.mode = .filteredRows ↔ request.filter ≠ [])
    (h : ∀ c ∈ request.filter, (r.column? c.column).isSome) : request.select r =
      .ok ⟨r.oid, r.name, request.filter, sortKeys request.mode r, request.mode.limit⟩ := by
  unfold select
  rw [checkFilter_ok hm, find?_known h]
  rfl

theorem select_eq_ok (h : request.select r = .ok q) :
    (∀ c ∈ request.filter, (r.column? c.column).isSome) ∧
      q = ⟨r.oid, r.name, request.filter, sortKeys request.mode r, request.mode.limit⟩ := by
  obtain ⟨_, _, h⟩ := bind_eq_ok.mp h
  dsimp only at h
  split at h
  · cases h
  · next hn =>
    cases h
    refine ⟨fun c hc => ?_, rfl⟩
    have hf := List.find?_eq_none.mp (Option.eq_none_iff_forall_ne_some.mpr hn) c hc
    simpa [Option.isSome_iff_ne_none] using hf

theorem column_of_sortKeys {mode : ViewMode} (hs : r.Sound) {k : SortKey}
    (hk : k ∈ sortKeys mode r) : ∃ c ∈ r.columns, c.name = k.column := by
  have hkeys : ∀ name ∈ (if r.primaryKey = [] then r.columns.map (·.name) else r.primaryKey),
      ∃ c ∈ r.columns, c.name = name := by
    intro name hn
    split at hn
    · exact List.mem_map.mp hn
    · exact hs.keyExists name hn
  cases mode with
  | firstRows | lastRows =>
    obtain ⟨name, hn, rfl⟩ := List.mem_map.mp hk
    exact hkeys name hn
  | allRows | filteredRows =>
    obtain ⟨name, hn, rfl⟩ := List.mem_map.mp hk
    exact hs.keyExists name hn

theorem column_of_condition (h : request.select r = .ok q) {c : Condition} (hc : c ∈ q.filter) :
    ∃ column ∈ r.columns, column.name = c.column := by
  obtain ⟨hf, rfl⟩ := select_eq_ok h
  obtain ⟨column, hcolumn⟩ := Option.isSome_iff_exists.mp (hf c hc)
  have hn := List.find?_some hcolumn
  exact ⟨column, List.mem_of_find?_eq_some hcolumn, of_decide_eq_true hn⟩

theorem select_columns (h : request.select r = .ok q) (hs : r.Sound) :
    (∀ c ∈ q.filter, ∃ column ∈ r.columns, column.name = c.column) ∧
      ∀ k ∈ q.order, ∃ column ∈ r.columns, column.name = k.column := by
  refine ⟨fun c hc => column_of_condition h hc, ?_⟩
  obtain ⟨-, rfl⟩ := select_eq_ok h
  exact fun k hk => column_of_sortKeys hs hk

end DbConsole.ViewRequest
