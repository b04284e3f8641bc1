import DbConsole.Proofs.Console.Contest
import DbConsole.Proofs.Console.Endings

namespace DbConsole

/-- The target of a view is there: a relation of its kind, which can be reached. -/
def Target.Names (t : Target) (c : Catalog) (r : Relation) : Prop :=
  ∃ db stored, c.Serves t.database db ∧ db.relations.find? t.oid = some stored ∧
    stored.relation = r ∧ r.kind = t.kind.relationKind

namespace Console

variable {c : Console} {id : String} {request : ViewRequest} {answer : Except ViewError String}
  {r : Relation} {s : Session}

/-- What is answered to the request to open a session under an id. The conditions have an order: an
answer is given only if no earlier one is due. -/
inductive Verdict (c : Console) (id : String) (request : ViewRequest) :
    Except ViewError String → Prop where
  | taken (h : c.isRegistered id) : Verdict c id request (.error (.duplicateSession id))
  | noGroup (hf : ¬c.isRegistered id)
    (h : c.catalog.groups.find? request.target.database.group = none) :
    Verdict c id request
      (.error (.invalidTarget (.notFound (.groupNotFound request.target.database.group))))
  | noServer (servers : SortedMap UInt32 Server) (hf : ¬c.isRegistered id)
    (hg : c.catalog.groups.find? request.target.database.group = some servers)
    (h : servers.find? request.target.database.server = none) :
    Verdict c id request
      (.error (.invalidTarget (.notFound (.serverNotFound request.target.database.server))))
  | unavailable (server : Server) (hf : ¬c.isRegistered id)
    (hs : c.catalog.server? request.target.database.group request.target.database.server =
      some server) (h : server.available = false) :
    Verdict c id request
      (.error (.connection (.connectionFailed (.notAccepting server.name))))
  | noDatabase (server : Server) (hf : ¬c.isRegistered id)
    (hs : c.catalog.server? request.target.database.group request.target.database.server =
      some server) (ha : server.available = true)
    (h : server.databases.find? request.target.database.database = none) :
    Verdict c id request
      (.error (.invalidTarget (.notFound (.databaseNotFound request.target.database.database))))
  | noObject (db : Database) (hf : ¬c.isRegistered id)
    (hd : c.catalog.Serves request.target.database db)
    (h : db.relations.find? request.target.oid = none) :
    Verdict c id request
      (.error (.invalidTarget (.notFound (.objectNotFound request.target.oid))))
  | otherKind (db : Database) (stored : StoredRelation) (hf : ¬c.isRegistered id)
    (hd : c.catalog.Serves request.target.database db)
    (ho : db.relations.find? request.target.oid = some stored)
    (h : stored.relation.kind ≠ request.target.kind.relationKind) :
    Verdict c id request (.error (.invalidTarget
      (.otherKind stored.relation.name stored.relation.kind request.target.kind)))
  | filterMissing (r : Relation) (hf : ¬c.isRegistered id) (ht : request.target.Names c.catalog r)
    (hm : request.mode = .filteredRows) (h : request.filter = []) :
    Verdict c id request (.error (.invalidFilter .missing))
  | filterUnexpected (r : Relation) (hf : ¬c.isRegistered id)
    (ht : request.target.Names c.catalog r)
    (hm : request.mode ≠ .filteredRows) (h : request.filter ≠ []) :
    Verdict c id request (.error (.invalidFilter .unexpected))
  | unknownColumn (r : Relation) (name : String) (hf : ¬c.isRegistered id)
    (ht : request.target.Names c.catalog r) (hm : request.mode = .filteredRows)
    (h : ViewRequest.FirstUnknown request.filter r name) :
    Verdict c id request (.error (.invalidFilter (.unknownColumn name)))
  | opened (r : Relation) (hf : ¬c.isRegistered id) (ht : request.target.Names c.catalog r)
    (hm : request.mode = .filteredRows ↔ request.filter ≠ [])
    (h : ∀ condition ∈ request.filter, (r.column? condition.column).isSome) :
    Verdict c id request (.ok id)

theorem openSession_taken (hr : c.isRegistered id) :
    c.openSession id request = (.error (.duplicateSession id), c) :=
  complete_barred hr (.inl rfl)

theorem openSession_unreached {e : CatalogError} (hf : ¬c.isRegistered id)
    (hr : Faults.strike c.faults.connect (c.catalog.reach request.target.database) = .error e) :
    c.openSession id request = (.error (.ofCatalog e), c) := by
  have hk : c.connect request.target.database = .error e := by
    unfold Console.connect
    rw [hr]
    rfl
  have ha : c.advance id request .admitted = (.done (.error (.ofCatalog e)), c) := by
    simp only [advance, hk]
  unfold openSession
  rw [← complete_advance, advance_asked_free hf, ← complete_advance, ha, complete_done]

theorem openSession_unprepared {e : ViewError} (hf : ¬c.isRegistered id)
    (hr : Faults.strike c.faults.connect (c.catalog.reach request.target.database) = .ok ())
    (hp : request.prepare (c.relation ⟨request.target.database⟩ request.target.oid) = .error e) :
    c.openSession id request = (.error e, c) := by
  have ha : c.advance id request .admitted = (.connected ⟨request.target.database⟩, c.lend 1) :=
    advance_admitted hr 0
  have hp' : request.prepare ((c.lend 1).relation ⟨request.target.database⟩
    request.target.oid) = .error e := hp
  have hb : (c.lend 1).advance id request (.connected ⟨request.target.database⟩) =
      (.done (.error e), c) := by
    simp only [advance, hp']
    rw [release_lend c 0 1]
    rfl
  unfold openSession
  rw [← complete_advance, advance_asked_free hf, ← complete_advance, ha, ← complete_advance, hb,
    complete_done]

theorem openSession_admitted (hf : ¬c.isRegistered id) (h : c.Admits id request s) :
    c.openSession id request = (.ok id, c.won id s) :=
  complete_free h hf .asked 0

theorem openSession_cases (c : Console) (id : String) (request : ViewRequest) :
    (∃ e, c.openSession id request = (.error e, c)) ∨
      ∃ s, c.Admits id request s ∧ ¬c.isRegistered id ∧
        c.openSession id request = (.ok id, c.won id s) := by
  by_cases hf : c.isRegistered id
  · exact .inl ⟨_, openSession_taken hf⟩
  · cases hr : Faults.strike c.faults.connect (c.catalog.reach request.target.database) with
    | error e => exact .inl ⟨_, openSession_unreached hf hr⟩
    | ok _ =>
      cases hp : request.prepare (c.relation ⟨request.target.database⟩ request.target.oid) with
      | error e => exact .inl ⟨e, openSession_unprepared hf hr hp⟩
      | ok found =>
        have ha : c.Admits id request (.new id found.1 found.2 ⟨request.target.database⟩) :=
          ⟨hr, _, _, hp, rfl⟩
        exact .inr ⟨_, ha, hf, openSession_admitted hf ha⟩

theorem answer_unreached {e : CatalogError} (hh : c.faults.Harmless) (hf : ¬c.isRegistered id)
    (hr : c.catalog.reach request.target.database = .error e) :
    (c.openSession id request).1 = .error (.ofCatalog e) := by
  have hs : Faults.strike c.faults.connect (c.catalog.reach request.target.database) =
      .error e := by
    rw [hh.connect]
    exact hr
  rw [openSession_unreached hf hs]

theorem answer_served {db : Database} (hh : c.faults.Harmless) (hf : ¬c.isRegistered id)
    (hd : c.catalog.Serves request.target.database db) : (c.openSession id request).1 =
      (request.prepare ((db.relation request.target.oid).map (·.relation))).map fun _ => id := by
  have hr : Faults.strike c.faults.connect (c.catalog.reach request.target.database) = .ok () := by
    rw [hh.connect]
    exact hd.reach
  have hrel : c.relation ⟨request.target.database⟩ request.target.oid =
      (db.relation request.target.oid).map (·.relation) := by
    unfold Console.relation
    rw [hh.relation]
    exact hd.relation request.target.oid
  rw [← hrel]
  cases hp : request.prepare (c.relation ⟨request.target.database⟩ request.target.oid) with
  | error e =>
    rw [openSession_unprepared hf hr hp]
    rfl
  | ok found =>
    rw [openSession_admitted hf ⟨hr, found.1, found.2, hp, rfl⟩]
    rfl

theorem answer_found {db : Database} {stored : StoredRelation} (hh : c.faults.Harmless)
    (hf : ¬c.isRegistered id) (hd : c.catalog.Serves request.target.database db)
    (ho : db.relations.find? request.target.oid = some stored) : (c.openSession id request).1 =
      (request.prepare (.ok stored.relation)).map fun _ => id := by
  rw [answer_served hh hf hd, Database.relation_eq_ok.mpr ho]
  rfl

theorem answer_named (hh : c.faults.Harmless) (hf : ¬c.isRegistered id)
    (ht : request.target.Names c.catalog r) : (c.openSession id request).1 =
      ((request.select r).mapError .invalidFilter).map fun _ => id := by
  obtain ⟨db, stored, hd, ho, rfl, hk⟩ := ht
  rw [answer_found hh hf hd ho, ViewRequest.prepare_ofKind hk]
  cases request.select stored.relation <;> rfl

theorem answer_of_verdict (hh : c.faults.Harmless) (h : c.Verdict id request answer) :
    (c.openSession id request).1 = answer := by
  cases h with
  | taken h => rw [openSession_taken h]
  | noGroup hf h =>
    have hr : c.catalog.reach request.target.database =
        .error (.groupNotFound request.target.database.group) := by
      rw [Catalog.reach_eq]
      simp only [h]
    exact answer_unreached hh hf hr
  | noServer servers hf hg h =>
    have hr : c.catalog.reach request.target.database =
        .error (.serverNotFound request.target.database.server) := by
      rw [Catalog.reach_eq]
      simp only [hg, h]
    exact answer_unreached hh hf hr
  | unavailable server hf hs h =>
    have hr : c.catalog.reach request.target.database =
        .error (.connectionFailed (.notAccepting server.name)) := by
      rw [Catalog.reach_of_server hs, if_pos h]
    exact answer_unreached hh hf hr
  | noDatabase server hf hs ha h =>
    have hr : c.catalog.reach request.target.database =
        .error (.databaseNotFound request.target.database.database) := by
      rw [Catalog.reach_of_server hs, if_neg (by simp [ha]), if_pos h]
    exact answer_unreached hh hf hr
  | noObject db hf hd h =>
    rw [answer_served hh hf hd]
    unfold Database.relation
    rw [h]
    rfl
  | otherKind db stored hf hd ho h =>
    rw [answer_found hh hf hd ho, ViewRequest.prepare_otherKind h]
    rfl
  | filterMissing r hf ht hm h =>
    rw [answer_named hh hf ht, ViewRequest.select_missing hm h]
    rfl
  | filterUnexpected r hf ht hm h =>
    rw [answer_named hh hf ht, ViewRequest.select_unexpected hm h]
    rfl
  | unknownColumn r name hf ht hm h =>
    rw [answer_named hh hf ht, ViewRequest.select_unknown hm h]
    rfl
  | opened r hf ht hm h =>
    rw [answer_named hh hf ht, ViewRequest.select_known hm h]
    rfl

theorem verdict_named (hf : ¬c.isRegistered id) (ht : request.target.Names c.catalog r) :
    ∃ answer, c.Verdict id request answer := by
  by_cases hm : request.mode = .filteredRows
  · by_cases he : request.filter = []
    · exact ⟨_, .filterMissing r hf ht hm he⟩
    · cases hu : request.filter.find? fun c => (r.column? c.column).isNone with
      | some condition =>
        exact ⟨_, .unknownColumn r _ hf ht hm (ViewRequest.find?_unknown hu)⟩
      | none =>
        refine ⟨_, .opened r hf ht ⟨fun _ => he, fun _ => hm⟩ fun condition hc => ?_⟩
        simpa [Option.isSome_iff_ne_none] using List.find?_eq_none.mp hu condition hc
  · by_cases he : request.filter = []
    · refine ⟨_, .opened r hf ht ⟨fun h => (hm h).elim, fun h => (h he).elim⟩ ?_⟩
      rw [he]
      exact fun _ hc => (List.not_mem_nil hc).elim
    · exact ⟨_, .filterUnexpected r hf ht hm he⟩

theorem verdict_served {db : Database} (hf : ¬c.isRegistered id)
    (hd : c.catalog.Serves request.target.database db) :
    ∃ answer, c.Verdict id request answer := by
  cases ho : db.relations.find? request.target.oid with
  | none => exact ⟨_, .noObject db hf hd ho⟩
  | some stored =>
    by_cases hk : stored.relation.kind = request.target.kind.relationKind
    · exact verdict_named hf ⟨db, stored, hd, ho, rfl, hk⟩
    · exact ⟨_, .otherKind db stored hf hd ho hk⟩

theorem exists_verdict (c : Console) (id : String) (request : ViewRequest) :
    ∃ answer, c.Verdict id request answer := by
  by_cases hf : c.isRegistered id
  · exact ⟨_, .taken hf⟩
  · cases hg : c.catalog.groups.find? request.target.database.group with
    | none => exact ⟨_, .noGroup hf hg⟩
    | some servers =>
      cases hv : servers.find? request.target.database.server with
      | none => exact ⟨_, .noServer servers hf hg hv⟩
      | some server =>
        have hs : c.catalog.server? request.target.database.group
            request.target.database.server = some server :=
          Option.bind_eq_some_iff.mpr ⟨servers, hg, hv⟩
        cases ha : server.available with
        | false => exact ⟨_, .unavailable server hf hs ha⟩
        | true =>
          cases hd : server.databases.find? request.target.database.database with
          | none => exact ⟨_, .noDatabase server hf hs ha hd⟩
          | some db => exact verdict_served hf ⟨server, hs, ha, hd⟩

/-- Without faults, opening a session is answered as the conditions say. Whatever fails, nothing has
changed then; otherwise there is one session more, not started yet, with its connection. -/
theorem openSession_decided (c : Console) (id : String) (request : ViewRequest)
    (hh : c.faults.Harmless) :
    (∀ answer, (c.openSession id request).1 = answer ↔ c.Verdict id request answer) ∧
    (∀ e, (c.openSession id request).1 = .error e → (c.openSession id request).2 = c) ∧
    ∀ name, (c.openSession id request).1 = .ok name → ∃ s, s.state = .initialized ∧
      (c.openSession id request).2 = c.won id s ∧ c.Gains id s (c.won id s) := by
  refine ⟨fun answer => ⟨?_, answer_of_verdict hh⟩, fun e he => ?_, fun name hn => ?_⟩
  · rintro rfl
    obtain ⟨answer, h⟩ := exists_verdict c id request
    rw [answer_of_verdict hh h]
    exact h
  · rcases openSession_cases c id request with ⟨e', h⟩ | ⟨s, _, _, h⟩
    · rw [h]
    · rw [h] at he
      cases he
  · rcases openSession_cases c id request with ⟨e, h⟩ | ⟨s, ha, hf, h⟩
    · rw [h] at hn
      cases hn
    · obtain ⟨r, q, _, rfl⟩ := ha.prepare
      exact ⟨_, rfl, congrArg Prod.snd h, gains_won hf _⟩

def filteredRequest (column : String) : ViewRequest :=
  ⟨⟨⟨1, 1, 16384⟩, 16386, .table⟩, .filteredRows, [⟨"id", .eq, .null⟩, ⟨column, .eq, .null⟩]⟩

/-- A condition is about a column that is not there; without it, a session is opened. -/
theorem openSession_decided_filtered : ∃ c c' : Console,
    c.Verdict "x" (filteredRequest "name") (.error (.invalidFilter (.unknownColumn "name"))) ∧
    (c.openSession "x" (filteredRequest "name")).2 = c ∧
    c.Verdict "x" (filteredRequest "id") (.ok "x") ∧
    (c.openSession "x" (filteredRequest "id")).2 = c' ∧ c'.connections = c.connections + 1 ∧
    c'.Verdict "x" (filteredRequest "name") (.error (.duplicateSession "x")) := by
  have hh : ((Console.new .standard 1).run tableSteps).faults.Harmless :=
    ⟨rfl, rfl, rfl, rfl, rfl, rfl⟩
  have hname : (((Console.new .standard 1).run tableSteps).openSession "x"
      (filteredRequest "name")).1 = .error (.invalidFilter (.unknownColumn "name")) := by
    decide +kernel
  have hid : (((Console.new .standard 1).run tableSteps).openSession "x"
      (filteredRequest "id")).1 = .ok "x" := by
    decide +kernel
  generalize (Console.new .standard 1).run tableSteps = c at *
  obtain ⟨hexact, hfails, _⟩ := openSession_decided c "x" (filteredRequest "name") hh
  obtain ⟨hexact', _, hopens⟩ := openSession_decided c "x" (filteredRequest "id") hh
  obtain ⟨s, _, hwon, hgains⟩ := hopens "x" hid
  have hr : (c.won "x" s).isRegistered "x" := isRegistered_won c "x" s
  exact ⟨c, c.won "x" s, (hexact _).mp hname, hfails _ hname, (hexact' _).mp hid, hwon,
    hgains.connections, .taken hr⟩

end Console

end DbConsole
