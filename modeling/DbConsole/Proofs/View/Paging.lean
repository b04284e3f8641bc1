import DbConsole.Proofs.View.Session
import Mathlib.Data.List.Induction

namespace DbConsole

inductive Look where
  | poll (size : Nat)
  | fetch (size : Nat)

/-- A look at a session, and the page that it was answered with. -/
structure Showing where
  look : Look
  page : Page

namespace Showing

def reached (shown : List Showing) : Nat := shown.foldl (fun n a => max n a.page.stop) 0

/-- The rows of the last poll, and after them those of the fetches since then. -/
def handedOut (shown : List Showing) : List Row :=
  shown.foldl (fun rows a => match a.look with
    | .poll _ => a.page.rows
    | .fetch _ => rows ++ a.page.rows) []

/-- What a page shows of all rows, after what was shown before. Sums may stop at any bound that is
not below the number of rows. -/
def Exact (rows : List Row) (before : List Showing) (a : Showing) : Prop :=
  match a.look with
  | .poll size => a.page.start = 0 ∧ a.page.rows = rows.take a.page.stop ∧
    a.page.stop = min (max (reached before) size) rows.length
  | .fetch size => a.page.start = reached before ∧
    a.page.rows = (rows.take a.page.stop).drop a.page.start ∧
    ∀ bound, rows.length ≤ bound →
      a.page.stop = min (min (a.page.start + size) bound) rows.length

theorem reached_concat (shown : List Showing) (a : Showing) :
    reached (shown ++ [a]) = max (reached shown) a.page.stop := by
  simp [reached]

theorem stop_le_reached {shown : List Showing} {a : Showing} (h : a ∈ shown) :
    a.page.stop ≤ reached shown := by
  induction shown using List.reverseRecOn with
  | nil => cases h
  | append_singleton shown b ih =>
    rw [reached_concat]
    rcases List.mem_append.mp h with h | h
    · exact Nat.le_trans (ih h) (Nat.le_max_left _ _)
    · rw [List.mem_singleton.mp h]
      exact Nat.le_max_right _ _

end Showing

open Showing

/-- The pages of a result whose cursor has come to a row. -/
structure Paging (rows : List Row) (cursor : Nat) (shown : List Showing) : Prop where
  exact : ∀ before a after, shown = before ++ a :: after → a.Exact rows before
  lossless : handedOut shown = rows.take cursor
  ordered : shown.Pairwise fun a b => a.page.stop ≤ b.page.stop
  more : ∀ a ∈ shown, a.page.hasMore = true ↔ a.page.stop < rows.length
  cursor_eq : cursor = reached shown
  cursor_le : cursor ≤ rows.length

namespace Paging

variable {summary : Summary} {rows : List Row} {cursor : Nat} {shown : List Showing}

theorem nil (rows : List Row) : Paging rows 0 [] where
  exact before a after h := by simp at h
  lossless := rfl
  ordered := .nil
  more _ ha := (List.not_mem_nil ha).elim
  cursor_eq := rfl
  cursor_le := Nat.zero_le _

theorem concat (h : Paging rows cursor shown) {a : Showing} (he : a.Exact rows shown)
    (hr : handedOut (shown ++ [a]) = rows.take a.page.stop) (hge : cursor ≤ a.page.stop)
    (hle : a.page.stop ≤ rows.length) (hm : a.page.hasMore = true ↔ a.page.stop < rows.length) :
    Paging rows a.page.stop (shown ++ [a]) where
  exact before b after hs := by
    rcases List.eq_nil_or_concat after with rfl | ⟨rest, d, rfl⟩
    · obtain ⟨rfl, hb⟩ := List.append_inj' hs rfl
      cases hb
      exact he
    · have hs' : shown ++ [a] = (before ++ b :: rest) ++ [d] := by simpa using hs
      obtain ⟨hb, _⟩ := List.append_inj' hs' rfl
      exact h.exact before b rest hb
  lossless := hr
  ordered := by
    refine List.pairwise_append.mpr ⟨h.ordered, List.pairwise_singleton _ _, ?_⟩
    intro b hb d hd
    rw [List.mem_singleton.mp hd]
    exact Nat.le_trans (h.cursor_eq ▸ stop_le_reached hb) hge
  more b hb := by
    rcases List.mem_append.mp hb with hb | hb
    · exact h.more b hb
    · rw [List.mem_singleton.mp hb]
      exact hm
  cursor_eq := by rw [reached_concat, ← h.cursor_eq, Nat.max_eq_right hge]
  cursor_le := hle

theorem poll (h : Paging summary.rows cursor shown) (size : Nat) :
    Paging summary.rows (max cursor (summary.page 0 (max cursor size)).stop)
      (shown ++ [⟨.poll size, summary.page 0 (max cursor size)⟩]) := by
  have hc := h.cursor_le
  have hstop : (summary.page 0 (max cursor size)).stop =
      min (max cursor size) summary.rows.length := by
    simp [Summary.page, Summary.rowCount]
  have hge : cursor ≤ (summary.page 0 (max cursor size)).stop := by omega
  have hle : (summary.page 0 (max cursor size)).stop ≤ summary.rows.length := by omega
  have he : Showing.Exact summary.rows shown ⟨.poll size, summary.page 0 (max cursor size)⟩ := by
    refine ⟨by simp [Summary.page], by simp [Summary.page], ?_⟩
    rw [← h.cursor_eq]
    exact hstop
  have hr : handedOut (shown ++ [⟨.poll size, summary.page 0 (max cursor size)⟩]) =
      summary.rows.take (summary.page 0 (max cursor size)).stop := by
    simp [handedOut, Summary.page]
  rw [Nat.max_eq_right hge]
  exact h.concat he hr hge hle decide_eq_true_iff

theorem fetch (h : Paging summary.rows cursor shown) (size : Nat) :
    Paging summary.rows (min (cursor + size) summary.rowCount)
      (shown ++ [⟨.fetch size, summary.page cursor size⟩]) := by
  have hc := h.cursor_le
  have hstart : (summary.page cursor size).start = cursor := Nat.min_eq_left hc
  have hstop : (summary.page cursor size).stop = min (cursor + size) summary.rows.length := rfl
  have hge : cursor ≤ (summary.page cursor size).stop := by omega
  have hle : (summary.page cursor size).stop ≤ summary.rows.length := by omega
  have hrows : (summary.page cursor size).rows =
      (summary.rows.take (summary.page cursor size).stop).drop cursor := by
    have hd : (summary.page cursor size).rows =
      (summary.rows.take (summary.page cursor size).stop).drop (summary.page cursor size).start :=
        rfl
    rw [hd, hstart]
  have he : Showing.Exact summary.rows shown ⟨.fetch size, summary.page cursor size⟩ := by
    refine ⟨?_, ?_, fun bound hb => ?_⟩
    · rw [hstart, h.cursor_eq]
    · rw [hstart]
      exact hrows
    · rw [hstart, hstop]
      omega
  have hr : handedOut (shown ++ [⟨.fetch size, summary.page cursor size⟩]) =
      summary.rows.take (summary.page cursor size).stop := by
    have hcat : handedOut (shown ++ [⟨.fetch size, summary.page cursor size⟩]) =
        handedOut shown ++ (summary.page cursor size).rows := by
      simp [handedOut]
    have ht : summary.rows.take cursor =
        (summary.rows.take (summary.page cursor size).stop).take cursor := by
      rw [List.take_take, Nat.min_eq_left hge]
    rw [hcat, h.lossless, hrows, ht, List.take_append_drop]
  exact h.concat he hr hge hle decide_eq_true_iff

end Paging

namespace Session

/-- The sessions there can be, each with the pages that were shown of it. -/
inductive Lived : Session → List Showing → Prop where
  | opened (id : String) (r : Relation) (q : Select) (k : Connection) : Lived (.new id r q k) []
  | started {s s' : Session} {shown : List Showing} {size : Nat} {sql : String}
      (h : Lived s shown) (hs : s.start size = .ok (sql, s')) : Lived s' shown
  | polled {s : Session} {shown : List Showing} (size : Nat) (h : Lived s shown) :
      Lived (s.poll size).2 (shown ++ (s.poll size).1.page.toList.map fun p => ⟨.poll size, p⟩)
  | fetched {s s' : Session} {shown : List Showing} {size : Nat} {page : Page}
      (h : Lived s shown) (hf : s.fetch size = .ok (page, s')) :
      Lived s' (shown ++ [⟨.fetch size, page⟩])
  | settled {s : Session} {shown : List Showing}
      (events : Connection → Nat → List StreamEvent) (h : Lived s shown) :
      Lived (s.settle events) shown
  | closed {s : Session} {shown : List Showing} (h : Lived s shown) : Lived s.close shown

variable {s s' : Session} {shown : List Showing} {size : Nat} {page : Page} {sql : String}

theorem lived_invariant : Invariant fun s => ∃ shown, s.Lived shown where
  opened id r q k := ⟨[], .opened id r q k⟩
  acts := by
    rintro s s' ⟨shown, h⟩ ha
    cases ha with
    | start size sql s' hs => exact ⟨shown, h.started hs⟩
    | poll size => exact ⟨_, h.polled size⟩
    | fetch size page s' hf => exact ⟨_, h.fetched hf⟩
  closed := by
    rintro s ⟨shown, h⟩
    exact ⟨shown, h.closed⟩
  settled := by
    rintro s events ⟨shown, h⟩
    exact ⟨shown, h.settled events⟩

theorem Lived.holds {P : Session → Prop} (hP : Invariant P) (h : s.Lived shown) : P s := by
  induction h with
  | opened id r q k => exact hP.opened id r q k
  | started _ hs ih => exact hP.acts ih (.start _ _ _ hs)
  | polled size _ ih => exact hP.acts ih (.poll size)
  | fetched _ hf ih => exact hP.acts ih (.fetch _ _ _ hf)
  | settled events _ ih => exact hP.settled events ih
  | closed _ ih => exact hP.closed ih

/-- A result is paged out exactly; before there is one, nothing is shown. -/
def Paged (s : Session) (shown : List Showing) : Prop :=
  match s.state with
  | .completed summary => Paging summary.rows s.cursor shown
  | _ => s.cursor = 0 ∧ shown = []

theorem paged_start (h : s.Paged shown) (hs : s.start size = .ok (sql, s')) : s'.Paged shown := by
  unfold start at hs
  split at hs
  · next hst _ _ =>
    cases hs
    unfold Paged at h
    rw [hst] at h
    exact h
  · cases hs
  · cases hs

theorem paged_poll (h : s.Paged shown) (size : Nat) : (s.poll size).2.Paged
    (shown ++ (s.poll size).1.page.toList.map fun p => ⟨.poll size, p⟩) := by
  unfold Paged at h
  cases hst : s.state with
  | completed summary =>
    rw [hst] at h
    simp only [poll, hst, Paged, Option.toList_some, List.map_cons, List.map_nil]
    exact h.poll size
  | initialized | running | failed =>
    rw [hst] at h
    simpa [poll, hst, Paged] using h

theorem paged_fetch (h : s.Paged shown) (hf : s.fetch size = .ok (page, s')) :
    s'.Paged (shown ++ [⟨.fetch size, page⟩]) := by
  unfold fetch at hf
  split at hf
  · next summary hst =>
    cases hf
    unfold Paged at h ⊢
    rw [hst] at h
    simp only [hst]
    exact h.fetch size
  · cases hf

theorem paged_settle (h : s.Paged shown) (hc : s.Connected)
    (events : Connection → Nat → List StreamEvent) : (s.settle events).Paged shown := by
  unfold settle
  split
  · next hr =>
    have hrun := hc.run
    rw [hr] at hrun
    have hp : s.cancelled = false ∧ s.state.phase = .running := by simpa using hrun.symm
    -- A query is carried out for a session of which nothing has been shown.
    have hn : s.cursor = 0 ∧ shown = [] := by
      cases hst : s.state with
      | running =>
        unfold Paged at h
        rw [hst] at h
        exact h
      | initialized | completed | failed => simp [hst, SessionState.phase] at hp
    split
    · next state _ =>
      unfold Paged
      cases state with
      | completed summary =>
        rw [hn.2]
        simp only [hn.1]
        exact .nil _
      | initialized | running | failed => exact hn
    · exact h
  · exact h

theorem Lived.paged (h : s.Lived shown) : s.Paged shown := by
  induction h with
  | opened => exact ⟨rfl, rfl⟩
  | started _ hs ih => exact paged_start ih hs
  | polled size _ ih => exact paged_poll ih size
  | fetched _ hf ih => exact paged_fetch ih hf
  | settled events h ih => exact paged_settle ih (h.holds connected_invariant) events
  | closed _ ih => exact ih

theorem poll_poll (hs : ∃ summary, s.state = .completed summary) (size : Nat) :
    ∃ page, (s.poll size).1.page = some page ∧ ((s.poll size).2.poll size).1.page = some page := by
  obtain ⟨summary, hst⟩ := hs
  refine ⟨summary.page 0 (max s.cursor size), by simp [poll, hst], ?_⟩
  have hm : max (max s.cursor (summary.page 0 (max s.cursor size)).stop) size =
      max s.cursor size := by
    have hle : (summary.page 0 (max s.cursor size)).stop ≤ max s.cursor size := by
      simp only [Summary.page, Nat.zero_add]
      exact Nat.min_le_left _ _
    omega
  simp [poll, hst, hm]

theorem look_of_not_completed (h : s.state.phase ≠ .completed) (size : Nat) :
    s.poll size = (⟨s.state, none⟩, s) ∧
      s.fetch size = .error (.invalidState s.id s.state.phase .completed) := by
  unfold poll fetch
  cases hst : s.state with
  | completed => exact (h (by rw [hst]; rfl)).elim
  | initialized | running | failed => exact ⟨rfl, rfl⟩

end Session

end DbConsole
