import DbConsole.Http.Message
import DbConsole.Proofs.Catalog.WellFormed
import DbConsole.Proofs.Json.Members
import DbConsole.Proofs.View.Paging

namespace DbConsole

/-- A session whose summary is about the relation that it is for, and whose relation has a column
for each part of its key. -/
structure Session.Coherent (s : Session) : Prop where
  keyExists : ∀ k ∈ s.relation.primaryKey, ∃ c ∈ s.relation.columns, c.name = k
  completed : ∀ summary, s.state = .completed summary → ∃ rows, summary.OfRows s.relation rows
  failed : ∀ summary, s.state = .failed summary → ∃ message, summary.OfError message

namespace Session

variable {s s' : Session}

theorem coherent_new {r : Relation} (h : r.Sound) (id : String) (q : Select) (k : Connection) :
    (Session.new id r q k).Coherent where
  keyExists := h.keyExists
  completed := nofun
  failed := nofun

theorem Coherent.start {size : Nat} {sql : String} (h : s.Coherent)
    (hs : s.start size = .ok (sql, s')) : s'.Coherent := by
  unfold Session.start at hs
  split at hs
  · cases hs
    exact ⟨h.keyExists, nofun, nofun⟩
  · cases hs
  · cases hs

theorem coherent_acts (h : s.Coherent) (ha : s.Acts s') : s'.Coherent := by
  cases ha with
  | start size sql _ hs => exact h.start hs
  | poll size =>
    unfold poll
    split <;> exact ⟨h.keyExists, h.completed, h.failed⟩
  | fetch size page _ hf =>
    unfold fetch at hf
    split at hf <;> cases hf
    exact ⟨h.keyExists, h.completed, h.failed⟩

theorem coherent_settle (h : s.Coherent) (events : Connection → Nat → List StreamEvent) :
    (s.settle events).Coherent := by
  unfold settle
  split
  · split
    · next state hs =>
      unfold resultState? at hs
      split at hs <;> cases hs
      · refine ⟨h.keyExists, ?_, nofun⟩
        rintro _ ⟨⟩
        exact ⟨_, Summary.ofRows_iff.mpr rfl⟩
      · refine ⟨h.keyExists, nofun, ?_⟩
        rintro _ ⟨⟩
        exact ⟨_, Summary.ofError_iff.mpr rfl⟩
      · refine ⟨h.keyExists, nofun, ?_⟩
        rintro _ ⟨⟩
        exact ⟨_, Summary.ofError_iff.mpr rfl⟩
    · exact ⟨h.keyExists, h.completed, h.failed⟩
  · exact h

end Session

namespace ResultColumn

variable {r : Relation} {k : String}

theorem flagged_iff (h : ∀ k ∈ r.primaryKey, ∃ c ∈ r.columns, c.name = k) :
    (∃ column ∈ ofRelation r, column.name = k ∧ column.isPrimaryKey = true) ↔
      k ∈ r.primaryKey := by
  simp only [ofRelation, List.mem_map]
  constructor
  · rintro ⟨_, ⟨c, hc, rfl⟩, rfl, hk⟩
    simpa using hk
  · intro hk
    obtain ⟨c, hc, rfl⟩ := h k hk
    exact ⟨_, ⟨c, hc, rfl⟩, rfl, by simpa using hk⟩

theorem columnType_of_mem (h : ∀ k ∈ r.primaryKey, ∃ c ∈ r.columns, c.name = k)
    (hk : k ∈ r.primaryKey) : ∃ column, (ofRelation r).find? (·.name = k) = some column ∧
      Http.columnType (ofRelation r) k = column.typeName := by
  obtain ⟨c, hc, hn⟩ := h k hk
  have hsome : ((ofRelation r).find? (·.name = k)).isSome := by
    rw [List.find?_isSome]
    exact ⟨_, List.mem_map_of_mem hc, by simp [hn]⟩
  obtain ⟨column, hcolumn⟩ := Option.isSome_iff_exists.mp hsome
  exact ⟨column, hcolumn, by simp [Http.columnType, hcolumn]⟩

@[simp]
theorem get?_toJson_name (info : ResultColumn) :
    info.toJson.get? "name" = some (.string info.name) := by
  simp [toJson, Json.get?, List.lookup_cons]

@[simp]
theorem get?_toJson_typeName (info : ResultColumn) :
    info.toJson.get? "type_name" = some (.string info.typeName) := by
  simp [toJson, Json.get?, List.lookup_cons]

@[simp]
theorem get?_toJson_notNull (info : ResultColumn) :
    info.toJson.get? "not_null" = some (.bool info.notNull) := by
  simp [toJson, Json.get?, List.lookup_cons]

@[simp]
theorem get?_toJson_isPrimaryKey (info : ResultColumn) :
    info.toJson.get? "is_primary_key" = some (.bool info.isPrimaryKey) := by
  simp [toJson, Json.get?]

end ResultColumn

namespace Http

/-- A column of a relation as clients are told of it. -/
structure ShowsColumn (r : Relation) (column : Column) (item : Json) : Prop where
  name : item.get? "name" = some (.string column.name)
  typeName : item.get? "type_name" = some (.string column.typeName)
  notNull : item.get? "not_null" = some (.bool column.notNull)
  isPrimaryKey : item.get? "is_primary_key" = some (.bool (decide (column.name ∈ r.primaryKey)))

/-- The members of the object are named for the columns that are marked, each with the type of the
first column of its name. -/
structure KeysOf (items : List Json) (keys : Json) : Prop where
  isObject : ∃ members, keys = .object members
  flagged : ∀ k, (keys.get? k).isSome ↔ ∃ item ∈ items,
    item.get? "name" = some (.string k) ∧ item.get? "is_primary_key" = some (.bool true)
  types : ∀ k v, keys.get? k = some v → ∃ earlier item later, items = earlier ++ item :: later ∧
    item.get? "name" = some (.string k) ∧ item.get? "type_name" = some v ∧
    ∀ other ∈ earlier, other.get? "name" ≠ some (.string k)

/-- What is shown of a page with certain rows, within certain bounds. -/
structure ShowsPage (data : Json) (rows : List Row) (start stop : Nat) (more : Bool) : Prop where
  rows : data.get? "rows" = some (.array (rows.map .array))
  start : data.get? "rows_fetched_from" = some (.number (.int start))
  stop : data.get? "rows_fetched_to" = some (.number (.int stop))
  more : data.get? "has_more_rows" = some (.bool more)

/-- What a poll shows of a result, up to a row. -/
structure ShowsResult (data : Json) (r : Relation) (rows : List Row) (stop : Nat) : Prop where
  status : data.get? "status" = some (.string "Success")
  result : data.get? "result" = some (.string ("SELECT " ++ toString rows.length))
  affected : data.get? "rows_affected" = some (.number (.int rows.length))
  page : ShowsPage data (rows.take stop) (if rows = [] then 0 else 1) stop (stop < rows.length)
  length : (rows.take stop).length = stop
  columns : ∃ items keys, data.get? "colinfo" = some (.array items) ∧
    List.Forall₂ (ShowsColumn r) r.columns items ∧
    data.get? "primary_keys" = some keys ∧ KeysOf items keys

/-- What a poll shows where there is no result. -/
structure ShowsNothing (data : Json) (phase : Phase) : Prop where
  status : ∃ text, data.get? "status" = some (.string text) ∧
    (text, phase) ∈ [("Initialized", .initialized), ("Busy", .running), ("Error", .failed)]
  result : ∃ result, data.get? "result" = some result ∧
    (result = .null ↔ phase = .initialized ∨ phase = .running)
  affected : data.get? "rows_affected" = some (.number (.int 0))
  page : ShowsPage data [] 0 0 false
  columns : data.get? "colinfo" = some (.array [])
  keys : data.get? "primary_keys" = some (.object [])

/-- The response is a success and holds the data. -/
structure Delivers (response : Response) (data : Json) : Prop where
  status : response.status = 200
  body : ∃ body, response.body = .json body ∧ body.get? "success" = some (.number (.int 1)) ∧
    body.get? "data" = some data

theorem delivers_success (data : Json) : Delivers (.success data) data := by
  refine ⟨rfl, _, rfl, ?_, ?_⟩ <;> simp [envelope, Json.get?, Json.nat, List.lookup_cons]

theorem Delivers.unique {response : Response} {data data' : Json} (h : Delivers response data)
    (h' : Delivers response data') : data = data' := by
  obtain ⟨body, hb, _, hd⟩ := h.body
  obtain ⟨body', hb', _, hd'⟩ := h'.body
  cases hb.symm.trans hb'
  exact Option.some.inj (hd.symm.trans hd')

theorem fetchJson_page (page : Page) : ShowsPage (fetchJson page) page.rows
    (if page.rows = [] then page.start else page.start + 1) page.stop page.hasMore := by
  constructor <;>
    simp [fetchJson, Json.get?_ofMembers, pageMembers, List.lookup_cons, rowsJson, Json.nat]

theorem pollJson_page (p : Progress) : ShowsPage (pollJson p) (p.page.getD noPage).rows
    (if (p.page.getD noPage).rows = [] then (p.page.getD noPage).start
      else (p.page.getD noPage).start + 1)
    (p.page.getD noPage).stop (p.page.getD noPage).hasMore := by
  cases hs : p.state.summary? <;> constructor <;>
    simp [pollJson, Json.get?_ofMembers, pageMembers, List.lookup_cons, rowsJson, Json.nat, hs]

/-- Nothing that is said of a page takes the place of what is said of the summary. -/
theorem get?_pollJson (p : Progress) {key : String}
    (hk : key ∈ ["status", "result", "rows_affected", "colinfo", "primary_keys"]) :
    (pollJson p).get? key = List.lookup key
      [("status", .string (statusText p.state.phase)),
        ("result", .option (fun s => .string s.status) p.state.summary?),
        ("rows_affected", .nat (match p.state with
          | .completed summary => summary.rowCount
          | _ => 0)),
        ("colinfo", .array ((p.state.summary?.elim [] (·.columns)).map (·.toJson))),
        ("primary_keys", .ofMembers ((p.state.summary?.elim [] (·.primaryKey)).map fun k =>
          (k, .string (columnType (p.state.summary?.elim [] (·.columns)) k))))] := by
  rw [pollJson, Json.get?_ofMembers]
  simp only [List.mem_cons, List.not_mem_nil, or_false] at hk
  rcases hk with rfl | rfl | rfl | rfl | rfl <;> cases p.state <;>
    simp [pageMembers, List.lookup_cons, SessionState.summary?]

variable {s : Session} {summary : Summary} {size : Nat}

theorem showsColumns (r : Relation) : List.Forall₂ (ShowsColumn r) r.columns
    ((ResultColumn.ofRelation r).map (·.toJson)) := by
  rw [List.forall₂_map_right_iff]
  refine (ResultColumn.forall₂_describes.mpr rfl).imp fun column info h => ?_
  constructor
  · rw [ResultColumn.get?_toJson_name, h.name]
  · rw [ResultColumn.get?_toJson_typeName, h.typeName]
  · rw [ResultColumn.get?_toJson_notNull, h.notNull]
  · rw [ResultColumn.get?_toJson_isPrimaryKey, h.isPrimaryKey]

theorem keysOf_relation {r : Relation} (h : ∀ k ∈ r.primaryKey, ∃ c ∈ r.columns, c.name = k) :
    KeysOf ((ResultColumn.ofRelation r).map (·.toJson)) (.ofMembers (r.primaryKey.map fun k =>
      (k, .string (columnType (ResultColumn.ofRelation r) k)))) where
  isObject := ⟨_, rfl⟩
  flagged k := by
    have hflagged := ResultColumn.flagged_iff (k := k) h
    rw [Json.get?_ofMembers_map]
    by_cases hk : k ∈ r.primaryKey
    · simpa [hk] using hflagged
    · simpa [hk] using hflagged
  types k v hv := by
    rw [Json.get?_ofMembers_map] at hv
    split at hv
    · next hk =>
      cases hv
      obtain ⟨info, hfind, ht⟩ := ResultColumn.columnType_of_mem h hk
      obtain ⟨hname, earlier, later, happend, hne⟩ := List.find?_eq_some_iff_append.mp hfind
      refine ⟨earlier.map (·.toJson), info.toJson, later.map (·.toJson), ?_, ?_, ?_, ?_⟩
      · rw [happend, List.map_append, List.map_cons]
      · simpa using hname
      · rw [ResultColumn.get?_toJson_typeName, ht]
      · simpa using hne
    · cases hv

theorem page_zero (summary : Summary) (size : Nat) : summary.page 0 size =
    ⟨summary.rows.take (min size summary.rows.length), 0, min size summary.rows.length,
      min size summary.rows.length < summary.rows.length⟩ := by
  simp [Summary.page, Summary.rowCount]

theorem poll_shows_result (h : s.Coherent) (hst : s.state = .completed summary) (hsize : 1 ≤ size) :
    ShowsResult (pollJson (s.poll size).1) s.relation summary.rows
      (min (max s.cursor size) summary.rows.length) := by
  obtain ⟨rows, hrows⟩ := h.completed summary hst
  obtain rfl := hrows.rows
  have hcolumns : summary.columns = ResultColumn.ofRelation s.relation :=
    ResultColumn.forall₂_describes.mp hrows.columns
  have hpoll : (s.poll size).1 =
      ⟨.completed summary, some (summary.page 0 (max s.cursor size))⟩ := by
    simp [Session.poll, hst]
  have hpage := pollJson_page (s.poll size).1
  have hmember := @get?_pollJson (s.poll size).1
  -- The page begins at the first row, so it is empty only where the whole result is.
  have hempty : summary.rows.take (min (max s.cursor size) summary.rows.length) = [] ↔
      summary.rows = [] := by
    rw [List.take_eq_nil_iff, ← List.length_eq_zero_iff]
    omega
  rw [hpoll] at hpage hmember ⊢
  rw [page_zero] at hpage hmember ⊢
  exact {
    status := hmember (by simp)
    result := by rw [← hrows.status]; exact hmember (by simp)
    affected := hmember (by simp)
    page := by simpa [hempty] using hpage
    length := by simp
    columns := by
      refine ⟨_, _, hmember (by simp), ?_, hmember (by simp), ?_⟩
      · simp only [SessionState.summary?, Option.elim_some, hcolumns]
        exact showsColumns s.relation
      · simp only [SessionState.summary?, Option.elim_some, hcolumns, hrows.primaryKey]
        exact keysOf_relation h.keyExists }

theorem poll_shows_nothing (h : s.Coherent) (hp : s.state.phase ≠ .completed) :
    ShowsNothing (pollJson (s.poll size).1) s.state.phase := by
  rw [(Session.look_of_not_completed hp size).1]
  have hpage := pollJson_page ⟨s.state, none⟩
  have hmember := @get?_pollJson ⟨s.state, none⟩
  cases hst : s.state with
  | completed summary => exact (hp (by rw [hst]; rfl)).elim
  | initialized | running =>
    rw [hst] at hpage hmember
    exact {
      status := ⟨_, hmember (by simp), by simp [statusText, SessionState.phase]⟩
      result := ⟨_, hmember (by simp),
        by simp [SessionState.phase, SessionState.summary?, Json.option]⟩
      affected := hmember (by simp)
      page := hpage
      columns := hmember (by simp)
      keys := hmember (by simp) }
  | failed summary =>
    obtain ⟨message, hmessage⟩ := h.failed summary hst
    cases Summary.ofError_iff.mp hmessage
    rw [hst] at hpage hmember
    exact {
      status := ⟨_, hmember (by simp), by simp [statusText, SessionState.phase]⟩
      result := ⟨_, hmember (by simp),
        by simp [SessionState.phase, SessionState.summary?, Json.option]⟩
      affected := hmember (by simp)
      page := hpage
      columns := hmember (by simp)
      keys := hmember (by simp) }

theorem ShowsPage.unique {data : Json} {rows rows' : List Row} {start start' stop stop' : Nat}
    {more more' : Bool} (h : ShowsPage data rows start stop more)
    (h' : ShowsPage data rows' start' stop' more') :
    rows = rows' ∧ start = start' ∧ stop = stop' := by
  have hrows := Option.some.inj (h.rows.symm.trans h'.rows)
  have hstart := Option.some.inj (h.start.symm.trans h'.start)
  have hstop := Option.some.inj (h.stop.symm.trans h'.stop)
  simp only [Json.array.injEq, Json.number.injEq, Number.int.injEq, Int.natCast_inj]
    at hrows hstart hstop
  exact ⟨List.map_injective_iff.mpr (fun _ _ => Json.array.inj) hrows, hstart, hstop⟩

theorem page_ne_nil {first : Nat} (hf : first < summary.rows.length) (hsize : 1 ≤ size) :
    (summary.page first size).rows ≠ [] := by
  simp only [Summary.page, Summary.rowCount, ← List.length_pos_iff, List.length_drop,
    List.length_take]
  omega

theorem start_add_length_page (summary : Summary) (first size : Nat) :
    (summary.page first size).start + (summary.page first size).rows.length =
      (summary.page first size).stop := by
  simp only [Summary.page, List.length_drop, List.length_take, Summary.rowCount]
  omega

theorem start_page_stop (summary : Summary) (first size more : Nat) :
    (summary.page (summary.page first size).stop more).start =
      (summary.page first size).stop := by
  simp [Summary.page]

theorem fetch_of_completed (hst : s.state = .completed summary) (size : Nat) :
    s.fetch size = .ok (summary.page s.cursor size,
      { s with cursor := (summary.page s.cursor size).stop }) := by
  simp only [Session.fetch, hst]
  rfl

theorem fetch_shows_page (summary : Summary) (first size : Nat) :
    ∃ start, ShowsPage (fetchJson (summary.page first size)) (summary.page first size).rows start
        (summary.page first size).stop (summary.page first size).hasMore ∧
      ((summary.page first size).rows ≠ [] → start = (summary.page first size).start + 1 ∧
        ((summary.page first size).stop : Int) - start + 1 =
          (summary.page first size).rows.length) ∧
      ((summary.page first size).rows = [] → start = (summary.page first size).stop) := by
  have hlength := start_add_length_page summary first size
  refine ⟨_, fetchJson_page _, fun hne => ?_, fun he => ?_⟩
  · rw [if_neg hne]
    exact ⟨rfl, by omega⟩
  · rw [if_pos he]
    simpa [he] using hlength

end Http

end DbConsole
