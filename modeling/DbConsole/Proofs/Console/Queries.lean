import DbConsole.Proofs.Catalog.Select
import DbConsole.Proofs.Console.Keys
import DbConsole.Proofs.Query.Stream

namespace DbConsole.Console

variable {c : Console} {k : Connection} {q : Select} {size : Nat} {rows : List Row}
  {events : List StreamEvent} {answer : Answer}

/-- What is handed out of a result: an error by itself, or the rows in batches, of which size zero
counts as one. -/
inductive HandsOut (size : Nat) :
    Except CatalogError (List Row) → List StreamEvent → Answer → Prop where
  | error (e : CatalogError) : HandsOut size (.error e) [.error e] (.failed (.catalog e))
  | batches (rows : List Row) (batches : List (List Row)) (h : Pieces (max size 1) rows batches) :
    HandsOut size (.ok rows) (batches.map .batch) (.batches batches)

theorem HandsOut.batches_of_ok (h : HandsOut size (.ok rows) events answer) :
    ∃ batches : List (List Row),
      events = batches.map .batch ∧ Pieces (max size 1) rows batches := by
  cases h with
  | batches _ batches hp => exact ⟨batches, rfl, hp⟩

theorem HandsOut.events_of_error {e : CatalogError}
    (h : HandsOut size (.error e) events answer) : events = [.error e] := by
  cases h
  rfl

theorem ofEvents_batches (before batches : List (List Row)) :
    Answer.ofEvents before (batches.map .batch) = .batches (before.reverse ++ batches) := by
  induction batches generalizing before with
  | nil => rw [List.map_nil, Answer.ofEvents, List.append_nil]
  | cons rows rest ih =>
    rw [List.map_cons, Answer.ofEvents, ih, List.reverse_cons, List.append_assoc,
      List.singleton_append]

theorem handsOut_stream (hf : c.faults.query = .none) (k : Connection) (q : Select) (size : Nat) :
    HandsOut size (c.catalog.select k.database q) (c.stream k q size)
      (.ofEvents [] (c.stream k q size)) := by
  unfold stream Catalog.stream
  rw [hf]
  cases c.catalog.select k.database q with
  | error e => exact .error e
  | ok rows =>
    simp only [QueryFault.apply, ofEvents_batches]
    exact .batches rows _ (pieces_batches size rows)

theorem step_query {link : String} (hk : c.links.find? link = some k) (q : Select) (size : Nat) :
    c.step (.query link q size) = (.ofEvents [] (c.stream k q size), c) := by
  simp only [step, withLink, hk]

/-- Without faults, a query on a connection comes to one result, and that is handed out as it is: an
error by itself, or all rows in batches of any size, every one full but for the last. Nothing comes
of a result without rows. -/
theorem queries_lose_nothing (c : Console) (hf : c.faults.query = .none) (k : Connection)
    (q : Select) : ∃ result, (∀ other, c.catalog.Answers k.database q other ↔ other = result) ∧
      (∀ size, ∃ answer, HandsOut size result (c.stream k q size) answer ∧
        ∀ link, c.links.find? link = some k → c.step (.query link q size) = (answer, c)) ∧
      (result = .ok [] → ∀ size, c.stream k q size = []) := by
  refine ⟨c.catalog.select k.database q, fun other => ?_, fun size => ?_, fun hn size => ?_⟩
  · rw [Catalog.answers_iff_select]
    exact eq_comm
  · exact ⟨_, handsOut_stream hf k q size, fun link hk => step_query hk q size⟩
  · have h := handsOut_stream hf k q size
    rw [hn] at h
    obtain ⟨batches, he, hp⟩ := h.batches_of_ok
    rw [he, hp.eq_nil]
    rfl

def misnamedQuery : Select :=
  { spelledQuery with
    filter := [⟨"k", .eq, .nat 1⟩, ⟨"x", .isNull, .null⟩]
    order := [⟨"y", false⟩] }

/-- Two rows in batches of size zero, and the first of two columns that are not there. -/
theorem queries_lose_nothing_spelled : ∃ (c : Console) (batches : List (List Row)),
    c.faults.query = .none ∧ c.stream ⟨⟨1, 1, 16384⟩⟩ spelledQuery 0 = batches.map .batch ∧
    batches.flatten.length = 2 ∧ (∀ batch ∈ batches, batch.length = 1) ∧
    c.stream ⟨⟨1, 1, 16384⟩⟩ misnamedQuery 0 = [.error (.undefinedColumn "x")] := by
  obtain ⟨_, _, rows, _, _, _, _, hselect, hl⟩ := spelledQuery_found
  have hmisnamed : (((Console.new .standard 1).run spelledSteps).catalog.select
      ⟨1, 1, 16384⟩ misnamedQuery).map List.length = .error (.undefinedColumn "x") := by
    decide +kernel
  have hf : ((Console.new .standard 1).run spelledSteps).faults.query = .none := rfl
  generalize (Console.new .standard 1).run spelledSteps = c at *
  obtain ⟨result, hresult, hout, _⟩ := queries_lose_nothing c hf ⟨⟨1, 1, 16384⟩⟩ spelledQuery
  obtain rfl := (hresult _).mp (Catalog.answers_iff_select.mpr hselect)
  obtain ⟨_, hrows, _⟩ := hout 0
  obtain ⟨batches, hbatches, hp⟩ := hrows.batches_of_ok
  obtain ⟨other, hother, hout', _⟩ := queries_lose_nothing c hf ⟨⟨1, 1, 16384⟩⟩ misnamedQuery
  obtain rfl := (hother _).mp (Catalog.answers_iff_select.mpr rfl)
  obtain ⟨_, herror, _⟩ := hout' 0
  refine ⟨c, batches, hf, hbatches, by rw [hp.flatten, hl], fun batch hm => ?_, ?_⟩
  · have hne := List.length_pos_iff.mpr (hp.nonempty batch hm)
    have hle := hp.within batch hm
    omega
  · cases hs : c.catalog.select ⟨1, 1, 16384⟩ misnamedQuery with
    | ok rows => simp [hs, Except.map] at hmisnamed
    | error e =>
      simp only [hs, Except.map, Except.error.injEq] at hmisnamed
      rw [hs, hmisnamed] at herror
      exact herror.events_of_error

end DbConsole.Console
