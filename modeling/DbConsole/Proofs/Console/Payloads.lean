import DbConsole.Proofs.Catalog.Sound
import DbConsole.Proofs.Console.Objects
import DbConsole.Proofs.Console.Sessions
import DbConsole.Proofs.View.Payloads
import Mathlib

namespace DbConsole.Console

open Http

variable {c c' : Console} {id : String} {s : Session} {r : Request}

theorem pageSize_of_session (h : c.SessionMove c') : c'.pageSize = c.pageSize := by
  cases h <;> rfl

theorem pageSize_of_moves (h : c.Moves c') : c'.pageSize = c.pageSize := by
  cases h with
  | stay => rfl
  | outer _ h => cases h <;> rfl
  | sessions _ h =>
    induction h with
    | refl => rfl
    | tail _ h ih => exact (pageSize_of_session h).trans ih

theorem coherent_of_opens (hc : c.catalog.Sound) (h : c.Opens id s) : s.Coherent := by
  obtain ⟨request, r, q, hp⟩ := h
  exact Session.coherent_new (hc.relation (ViewRequest.prepare_eq_ok.mp hp).1) id q _

theorem coherent_of_changes {s' : Session} (hs : s.Coherent) (h : c.Changes s s') :
    s'.Coherent := by
  cases h with
  | act _ ha => exact Session.coherent_acts hs ha
  | close => exact ⟨hs.keyExists, hs.completed, hs.failed⟩
  | settle => exact Session.coherent_settle hs _

/-- Sessions are for relations that are described soundly, and a page has room for a row. -/
structure Presentable (c : Console) : Prop where
  catalog : c.catalog.Sound
  sessions : ∀ s ∈ c.opened, s.Coherent
  pageSize : 1 ≤ c.pageSize

theorem Presentable.moves (h : c.Presentable) (hm : c.Moves c') : c'.Presentable where
  catalog := by
    rcases catalog_of_moves hm with he | hc
    · rw [he]
      exact h.catalog
    · exact Catalog.sound_change h.catalog hc
  sessions := forall_opened_of_moves (coherent_of_opens h.catalog) coherent_of_changes h.sessions hm
  pageSize := by
    rw [pageSize_of_moves hm]
    exact h.pageSize

theorem Evolved.presentable (h : c.Evolved) : c.Presentable := by
  obtain ⟨start, pageSize, steps, hs, rfl⟩ := h
  refine run_preserves (fun _ h => ⟨h.catalog, h.sessions, h.pageSize⟩) Presentable.moves steps ?_
  refine ⟨?_, ?_, Nat.le_max_right pageSize 1⟩
  · rcases hs with rfl | rfl
    · exact Catalog.sound_empty
    · exact Catalog.sound_standard
  · rw [opened_new]
    exact fun _ hs => (List.not_mem_nil hs).elim

theorem Presentable.coherent (h : c.Presentable) (hs : c.session? id = some s) : s.Coherent :=
  h.sessions s (mem_opened.mpr ⟨c.place id, sessionAt_place hs⟩)

theorem serve_of_route_of_ne_head {route : Route} (hr : r.route? = some route)
    (hm : r.method ≠ "HEAD") (c : Console) :
    c.serve r = c.respondRoute (r.method = "PUT") r.body route := by
  rw [serve_of_route hr, if_neg hm]

theorem session?_putSession (c : Console) (id : String) (s : Session) :
    (c.putSession id s).session? id = some s := by
  simp [putSession, putLineage, session?, lineage, SortedMap.find?_insert, Lineage.register]

theorem step_start {sql : String} {s' : Session} (hs : c.session? id = some s)
    (h : s.start c.pageSize = .ok (sql, s')) : (c.step (.start id)).2 = c.putSession id s' := by
  simp only [step, start, session_of_some hs, bind, Except.bind, h]
  rfl

theorem delivers_poll (hr : r.route? = some (.poll id)) (hm : r.method ≠ "HEAD")
    (hs : c.session? id = some s) : Delivers (c.serve r).1 (pollJson (s.poll c.pageSize).1) := by
  rw [serve_of_route_of_ne_head hr hm]
  simp only [respondRoute, poll_of_some hs]
  exact delivers_success _

theorem serve_fetch {summary : Summary} (hr : r.route? = some (.fetch id))
    (hm : r.method ≠ "HEAD") (hs : c.session? id = some s) (hst : s.state = .completed summary) :
    c.serve r = (.success (fetchJson (summary.page s.cursor c.pageSize)),
      c.putSession id { s with cursor := (summary.page s.cursor c.pageSize).stop }) := by
  rw [serve_of_route_of_ne_head hr hm]
  simp only [respondRoute, fetch, session_of_some hs, bind, Except.bind, fetch_of_completed hst]
  rfl

theorem session?_serve_fetch {summary : Summary} (hr : r.route? = some (.fetch id))
    (hm : r.method ≠ "HEAD") (hs : c.session? id = some s) (hst : s.state = .completed summary) :
    (c.serve r).2.session? id =
      some { s with cursor := (summary.page s.cursor c.pageSize).stop } := by
  rw [serve_fetch hr hm hs hst]
  exact session?_putSession c id _

/-- A page of a result, counted from one, as the answer to a request. -/
structure AnswersPage (response : Response) (rows : List Row) (start stop : Nat) : Prop where
  data : ∃ data more, Delivers response data ∧ ShowsPage data rows start stop more
  bounds : rows ≠ [] → (stop : Int) - start + 1 = rows.length
  empty : rows = [] → start = stop

theorem AnswersPage.unique {response : Response} {rows rows' : List Row}
    {start start' stop stop' : Nat} (h : AnswersPage response rows start stop)
    (h' : AnswersPage response rows' start' stop') :
    rows = rows' ∧ start = start' ∧ stop = stop' := by
  obtain ⟨data, more, hdata, hshows⟩ := h.data
  obtain ⟨data', more', hdata', hshows'⟩ := h'.data
  cases hdata.unique hdata'
  exact hshows.unique hshows'

theorem answersPage_of_fetch {summary : Summary} (hr : r.route? = some (.fetch id))
    (hm : r.method ≠ "HEAD") (hs : c.session? id = some s) (hst : s.state = .completed summary) :
    ∃ start, AnswersPage (c.serve r).1 (summary.page s.cursor c.pageSize).rows start
        (summary.page s.cursor c.pageSize).stop ∧
      ((summary.page s.cursor c.pageSize).rows ≠ [] →
        start = (summary.page s.cursor c.pageSize).start + 1) := by
  obtain ⟨start, hshows, hrows, hempty⟩ := fetch_shows_page summary s.cursor c.pageSize
  rw [serve_fetch hr hm hs hst]
  exact ⟨start, ⟨⟨_, _, delivers_success _, hshows⟩, fun hne => (hrows hne).2, hempty⟩,
    fun hne => (hrows hne).1⟩

theorem completed_of_status {id : String} (hr : r.route? = some (.fetch id))
    (h : (c.serve r).1.status = 200) :
    ∃ s summary, c.session? id = some s ∧ s.state = .completed summary := by
  rw [status_of_route hr] at h
  simp only [respondRoute] at h
  cases hs : c.session? id with
  | none =>
    rw [fetch_of_none hs] at h
    exact absurd h (status_ne_ok (.view (.unknownSession id)))
  | some s =>
    by_cases hp : s.state.phase = .completed
    · cases hst : s.state with
      | completed summary => exact ⟨s, summary, rfl, hst⟩
      | initialized | running | failed => simp [hst, SessionState.phase] at hp
    · rw [fetch_of_some hs, fetchHeld, (Session.look_of_not_completed hp c.pageSize).2] at h
      exact absurd h (status_ne_ok (.view (.invalidState s.id s.state.phase .completed)))

/-- What a poll of a registered session shows belongs together: of a result its first rows, with
bounds, counts, columns and keys that are those of the result, and where there is none nothing but
what the state says. A fetched page has the bounds of its rows, and the page that is fetched next
begins where it ends. -/
theorem payloads_coherent (c : Console) (hc : c.Evolved) (r : Request) (hm : r.method ≠ "HEAD")
    (id : String) :
    (∀ s, r.route? = some (.poll id) → c.session? id = some s →
      ∃ data, Delivers (c.serve r).1 data ∧
        (∀ summary, s.state = .completed summary →
          ∃ stop, ShowsResult data s.relation summary.rows stop) ∧
        (s.state.phase ≠ .completed → ShowsNothing data s.state.phase)) ∧
    (r.route? = some (.fetch id) → (c.serve r).1.status = 200 →
      ∃ rows start stop, AnswersPage (c.serve r).1 rows start stop ∧
        (rows ≠ [] → ∀ (c' : Console) (next : Request),
          c'.session? id = (c.serve r).2.session? id → next.route? = some (.fetch id) →
          next.method ≠ "HEAD" → ∃ rows' start' stop',
            AnswersPage (c'.serve next).1 rows' start' stop' ∧
            (rows' ≠ [] → start' = stop + 1))) := by
  refine ⟨fun s hr hs => ?_, fun hr hstatus => ?_⟩
  · have hcoherent := hc.presentable.coherent hs
    refine ⟨_, delivers_poll hr hm hs, fun summary hst => ?_, poll_shows_nothing hcoherent⟩
    exact ⟨_, poll_shows_result hcoherent hst hc.presentable.pageSize⟩
  · obtain ⟨s, summary, hs, hst⟩ := completed_of_status hr hstatus
    obtain ⟨start, hanswer, _⟩ := answersPage_of_fetch hr hm hs hst
    refine ⟨_, start, _, hanswer, fun _ c' next hsame hnext hm' => ?_⟩
    -- What comes next may be asked of any console that has the session as this fetch leaves it.
    have hs' := hsame.trans (session?_serve_fetch hr hm hs hst)
    obtain ⟨start', hanswer', hfirst⟩ := answersPage_of_fetch hnext hm' hs' hst
    refine ⟨_, start', _, hanswer', fun hne => ?_⟩
    rw [hfirst hne, start_page_stop]

def viewingSteps : List Step :=
  [.createRelation ⟨1, 1, 16384⟩ ⟨"public", "t", .table, [⟨"id", "text", false⟩], ["id"]⟩,
    .insert ⟨1, 1, 16384⟩ 16386 [[.string "a"], [.string "b"]],
    .openSession "x" ⟨⟨⟨1, 1, 16384⟩, 16386, .table⟩, .allRows, []⟩]

def viewing : Session :=
  .new "x" ⟨16386, 16385, ⟨"public", "t"⟩, .table, [⟨"id", "text", true⟩], ["id"], none, .empty⟩
    ⟨16386, ⟨"public", "t"⟩, [], [⟨"id", false⟩], none⟩ ⟨⟨1, 1, 16384⟩⟩

def polling : Request := ⟨"GET", "/sqleditor/poll/x", ""⟩

def fetching : Request := ⟨"GET", "/sqleditor/fetch/x", ""⟩

def viewed : Session :=
  { viewing with
    state := .completed
      ⟨"SELECT 2", [⟨"id", "text", true, true⟩], ["id"], [[.string "a"], [.string "b"]]⟩
    slot := none }

theorem session_viewed : ((Console.new .standard 1).run
    (viewingSteps ++ [.start "x", .settle])).session? "x" = some viewed := by
  have hs : ((Console.new .standard 1).run viewingSteps).session? "x" = some viewing := by cbv
  have hstart : ∀ size, viewing.start size = .ok (viewing.query.sql, { viewing with
      state := .running, slot := none, run := some ⟨⟨⟨1, 1, 16384⟩⟩, size, false⟩ }) :=
    fun _ => rfl
  have hr : (Console.new .standard 1).run (viewingSteps ++ [.start "x", .settle]) =
      (((Console.new .standard 1).run viewingSteps).step (.start "x")).2.settle := by
    rw [run_append]
    rfl
  rw [hr, step_start hs (hstart _)]
  cbv

/-- Of two rows a poll shows the first, and two fetches in a row hand out one each. -/
theorem payloads_coherent_viewing : ∃ (c : Console) (data : Json),
    Delivers (c.serve polling).1 data ∧
    ShowsResult data viewing.relation [[.string "a"], [.string "b"]] 1 ∧
    AnswersPage (c.serve fetching).1 [[.string "a"]] 1 1 ∧
    AnswersPage ((c.serve fetching).2.serve fetching).1 [[.string "b"]] 2 2 := by
  have hpoll : polling.route? = some (.poll "x") := by decide +kernel
  have hfetch : fetching.route? = some (.fetch "x") := by decide +kernel
  have hc : ((Console.new .standard 1).run (viewingSteps ++ [.start "x", .settle])).Evolved :=
    ⟨.standard, 1, _, .inr rfl, rfl⟩
  have hsize : ((Console.new .standard 1).run (viewingSteps ++ [.start "x", .settle])).pageSize =
    1 := by decide +kernel
  have hs := session_viewed
  generalize (Console.new .standard 1).run (viewingSteps ++ [.start "x", .settle]) = c at *
  obtain ⟨data, hdata, hresult, _⟩ :=
    (payloads_coherent c hc polling (by decide) "x").1 viewed hpoll hs
  obtain ⟨stop, hresult⟩ := hresult _ rfl
  have hstop : stop = 1 := by
    obtain rfl := hdata.unique (delivers_poll hpoll (by decide) hs)
    have hshows := poll_shows_result (hc.presentable.coherent hs) rfl (Nat.le_of_eq hsize.symm)
    rw [(hresult.page.unique hshows.page).2.2, hsize]
    rfl
  have hstatus : (c.serve fetching).1.status = 200 := by
    rw [serve_fetch hfetch (by decide) hs rfl]
    rfl
  obtain ⟨rows, start, stop', hpage, hnext⟩ :=
    (payloads_coherent c hc fetching (by decide) "x").2 hfetch hstatus
  have hs' := session?_serve_fetch hfetch (by decide) hs rfl
  have hsize' : (c.serve fetching).2.pageSize = 1 := by
    rw [serve_fetch hfetch (by decide) hs rfl]
    exact hsize
  obtain ⟨first, hanswer, hfirst⟩ := answersPage_of_fetch hfetch (by decide) hs rfl
  obtain ⟨second, hanswer', _⟩ := answersPage_of_fetch hfetch (by decide) hs' rfl
  rw [hsize] at hanswer hfirst
  rw [hsize', hsize] at hanswer'
  obtain ⟨rfl, rfl, rfl⟩ := hpage.unique hanswer
  obtain rfl := hfirst nofun
  obtain ⟨rows', start', stop'', hpage', hstart⟩ :=
    hnext nofun (c.serve fetching).2 fetching rfl hfetch (by decide)
  obtain ⟨rfl, rfl, rfl⟩ := hpage'.unique hanswer'
  obtain rfl := hstart nofun
  exact ⟨c, data, hdata, hstop ▸ hresult, hpage, hpage'⟩

end DbConsole.Console
