import DbConsole.Proofs.Console.Registration

namespace DbConsole

open Console

namespace Opening

/-- An opening that has not come to its end and will register a session if it can. -/
inductive Underway (request : ViewRequest) (s : Session) : Opening → Prop where
  | asked : Underway request s .asked
  | admitted : Underway request s .admitted
  | connected : Underway request s (.connected ⟨request.target.database⟩)
  | prepared : Underway request s (.prepared s)

/-- An opening that has not registered its session, while another one has. -/
inductive Late (id : String) (request : ViewRequest) (s : Session) : Opening → Prop where
  | underway (o : Opening) (h : o.Underway request s) : Late id request s o
  | refused : Late id request s (.done (.error (.duplicateSession id)))

/-- An opening that has been refused, or will be at its first step. -/
def Barred (id : String) (o : Opening) : Prop :=
  o = .asked ∨ o = .done (.error (.duplicateSession id))

end Opening

namespace Console

/-- Nothing but the id can stand in the way of a request, which is for a session `s`. -/
structure Admits (c : Console) (id : String) (request : ViewRequest) (s : Session) : Prop where
  connect : Faults.strike c.faults.connect (c.catalog.reach request.target.database) = .ok ()
  prepare : ∃ r q, request.prepare (c.relation ⟨request.target.database⟩ request.target.oid) =
    .ok (r, q) ∧ s = .new id r q ⟨request.target.database⟩

/-- With one more session, and its connection. -/
def won (c : Console) (id : String) (s : Session) : Console := (c.putSession id s).lend 1

variable {c c' : Console} {id : String} {request : ViewRequest} {s : Session} {o : Opening}

theorem Admits.connections (h : c.Admits id request s) : s.connections = 1 := by
  obtain ⟨r, q, _, rfl⟩ := h.prepare
  rfl

theorem Admits.won (h : c.Admits id request s) (s' : Session) :
    (c.won id s').Admits id request s := ⟨h.connect, h.prepare⟩

theorem isRegistered_won (c : Console) (id : String) (s : Session) :
    (c.won id s).isRegistered id := by
  change (c.putSession id s).isRegistered id
  rw [isRegistered_eq]
  unfold putSession standing
  rw [lineage_putLineage, if_pos rfl]
  rfl

theorem advance_asked_taken (hr : c.isRegistered id) :
    c.advance id request .asked = (.done (.error (.duplicateSession id)), c) := by
  simp only [advance, if_pos hr]

theorem advance_asked_free (hf : ¬c.isRegistered id) :
    c.advance id request .asked = (.admitted, c) := by
  simp only [advance, if_neg hf]

theorem advance_admitted
    (hr : Faults.strike c.faults.connect (c.catalog.reach request.target.database) = .ok ())
    (n : Nat) : (c.lend n).advance id request .admitted =
      (.connected ⟨request.target.database⟩, c.lend (n + 1)) := by
  have hk : (c.lend n).connect request.target.database =
      .ok (⟨request.target.database⟩, c.lend (n + 1)) := by
    have hc : Faults.strike (c.lend n).faults.connect
        ((c.lend n).catalog.reach request.target.database) = .ok () := hr
    unfold Console.connect
    rw [hc]
    rfl
  simp only [advance, hk]

theorem advance_connected (h : c.Admits id request s) (n : Nat) :
    (c.lend n).advance id request (.connected ⟨request.target.database⟩) =
      (.prepared s, c.lend n) := by
  obtain ⟨r, q, hp, rfl⟩ := h.prepare
  have hp' : request.prepare ((c.lend n).relation ⟨request.target.database⟩
    request.target.oid) = .ok (r, q) := hp
  simp only [advance, hp']

theorem advance_prepared_free (hf : ¬c.isRegistered id) (n : Nat) :
    (c.lend (n + 1)).advance id request (.prepared s) =
      (.done (.ok id), (c.won id s).lend n) := by
  have hn : ¬(c.lend (n + 1)).isRegistered id := hf
  have hc : c.connections + (n + 1) = c.connections + 1 + n := by omega
  simp only [advance, if_neg hn]
  exact congrArg (fun m => (Opening.done (.ok id), { c.putSession id s with connections := m })) hc

theorem advance_prepared_taken (h : c.Admits id request s) (hr : c.isRegistered id) (n : Nat) :
    (c.lend (n + 1)).advance id request (.prepared s) =
      (.done (.error (.duplicateSession id)), c.lend n) := by
  have hr' : (c.lend (n + 1)).isRegistered id := hr
  simp only [advance, if_pos hr', h.connections, release_lend]

theorem advance_free (h : c.Admits id request s) (hf : ¬c.isRegistered id)
    (ho : o.Underway request s) (n : Nat) :
    (∃ o', (c.lend (n + o.held)).advance id request o = (o', c.lend (n + o'.held)) ∧
      o'.Underway request s) ∨
      (c.lend (n + o.held)).advance id request o = (.done (.ok id), (c.won id s).lend n) := by
  cases ho with
  | asked => exact .inl ⟨.admitted, advance_asked_free (c := c.lend n) hf, .admitted⟩
  | admitted => exact .inl ⟨.connected _, advance_admitted h.connect n, .connected⟩
  | connected =>
    refine .inl ⟨.prepared s, ?_, .prepared⟩
    have hs : (Opening.prepared s).held = 1 := h.connections
    rw [hs]
    exact advance_connected h (n + 1)
  | prepared =>
    have hs : (Opening.prepared s).held = 1 := h.connections
    rw [hs]
    exact .inr (advance_prepared_free hf n)

/-- While the id is taken, an opening gets no further than to be refused. -/
theorem advance_late (h : c.Admits id request s) (hr : c.isRegistered id)
    (ho : o.Late id request s) (n : Nat) :
    ∃ o', (c.lend (n + o.held)).advance id request o = (o', c.lend (n + o'.held)) ∧
      o'.Late id request s := by
  have hs : (Opening.prepared s).held = 1 := h.connections
  cases ho with
  | underway _ ho =>
    cases ho with
    | asked => exact ⟨_, advance_asked_taken (c := c.lend n) hr, .refused⟩
    | admitted => exact ⟨.connected _, advance_admitted h.connect n, .underway _ .connected⟩
    | connected =>
      refine ⟨.prepared s, ?_, .underway _ .prepared⟩
      rw [hs]
      exact advance_connected h (n + 1)
    | prepared =>
      rw [hs]
      exact ⟨_, advance_prepared_taken h hr n, .refused⟩
  | refused => exact ⟨_, rfl, .refused⟩

theorem complete_done (c : Console) (answer : Except ViewError String) :
    c.complete id request (.done answer) = (answer, c) := by
  rw [complete]

theorem complete_underway (h : c.Admits id request s) {n : Nat}
    {answer : Except ViewError String}
    (hlast : (c.lend (n + 1)).advance id request (.prepared s) = (.done answer, c'))
    (ho : o.Underway request s) (hf : o = .asked → ¬c.isRegistered id) :
    (c.lend (n + o.held)).complete id request o = (answer, c') := by
  have hprepared : (c.lend (n + 1)).complete id request (.prepared s) = (answer, c') := by
    rw [← complete_advance, hlast, complete_done]
  have hconnected : (c.lend (n + 1)).complete id request
      (.connected ⟨request.target.database⟩) = (answer, c') := by
    rw [← complete_advance, advance_connected h]
    exact hprepared
  have hadmitted : (c.lend n).complete id request .admitted = (answer, c') := by
    rw [← complete_advance, advance_admitted h.connect]
    exact hconnected
  cases ho with
  | asked =>
    have hn : ¬(c.lend n).isRegistered id := hf rfl
    change (c.lend n).complete id request .asked = _
    rw [← complete_advance, advance_asked_free hn]
    exact hadmitted
  | admitted => exact hadmitted
  | connected => exact hconnected
  | prepared =>
    have hs : (Opening.prepared s).held = 1 := h.connections
    rw [hs]
    exact hprepared

theorem complete_free (h : c.Admits id request s) (hf : ¬c.isRegistered id)
    (ho : o.Underway request s) (n : Nat) :
    (c.lend (n + o.held)).complete id request o = (.ok id, (c.won id s).lend n) :=
  complete_underway h (advance_prepared_free hf n) ho fun _ => hf

theorem complete_late (h : c.Admits id request s) (hr : c.isRegistered id)
    (ho : o.Late id request s) (n : Nat) : (c.lend (n + o.held)).complete id request o =
      (.error (.duplicateSession id), c.lend n) := by
  have hasked : (c.lend n).complete id request .asked =
      (.error (.duplicateSession id), c.lend n) := by
    have hr' : (c.lend n).isRegistered id := hr
    rw [← complete_advance, advance_asked_taken hr', complete_done]
  cases ho with
  | underway _ ho =>
    cases ho with
    | asked => exact hasked
    | admitted | connected | prepared =>
      exact complete_underway h (advance_prepared_taken h hr n) (by constructor) nofun
  | refused => exact complete_done _ _

/-- How two openings under one id may stand. As long as neither has registered its session, the
console is as it was but for the connections they hold; and then only one has. -/
inductive Contest (c : Console) (id : String) (first second : ViewRequest) (s t : Session) :
    Opening → Opening → Console → Prop where
  | undecided (a b : Opening) (ha : a.Underway first s) (hb : b.Underway second t) :
    Contest c id first second s t a b (c.lend (a.held + b.held))
  | first (b : Opening) (hb : b.Late id second t) :
    Contest c id first second s t (.done (.ok id)) b ((c.won id s).lend b.held)
  | second (a : Opening) (ha : a.Late id first s) :
    Contest c id first second s t a (.done (.ok id)) ((c.won id t).lend a.held)

variable {first second : ViewRequest} {t : Session} {a b : Opening}

theorem contest_first (hs : c.Admits id first s) (hf : ¬c.isRegistered id)
    (h : c.Contest id first second s t a b c') : c.Contest id first second s t
      (c'.advance id first a).1 b (c'.advance id first a).2 := by
  cases h with
  | undecided a b ha hb =>
    rw [Nat.add_comm]
    rcases advance_free hs hf ha b.held with ⟨a', he, ha'⟩ | he
    · rw [he, Nat.add_comm]
      exact .undecided a' b ha' hb
    · rw [he]
      exact .first b (.underway b hb)
  | first b hb => exact .first b hb
  | second a ha =>
    obtain ⟨a', he, ha'⟩ := advance_late (hs.won t) (isRegistered_won c id t) ha 0
    rw [Nat.zero_add, Nat.zero_add] at he
    rw [he]
    exact .second a' ha'

theorem contest_second (ht : c.Admits id second t) (hf : ¬c.isRegistered id)
    (h : c.Contest id first second s t a b c') : c.Contest id first second s t
      a (c'.advance id second b).1 (c'.advance id second b).2 := by
  cases h with
  | undecided a b ha hb =>
    rcases advance_free ht hf hb a.held with ⟨b', he, hb'⟩ | he
    · rw [he]
      exact .undecided a b' ha hb'
    · rw [he]
      exact .second a (.underway a ha)
  | first b hb =>
    obtain ⟨b', he, hb'⟩ := advance_late (ht.won s) (isRegistered_won c id s) hb 0
    rw [Nat.zero_add, Nat.zero_add] at he
    rw [he]
    exact .first b' hb'
  | second a ha => exact .second a ha

theorem contest_interleave (hs : c.Admits id first s) (ht : c.Admits id second t)
    (hf : ¬c.isRegistered id) (turns : List Turn) (h : c.Contest id first second s t a b c') :
    ∃ a' b' c₁, c'.interleave id first second a b turns = (a', b', c₁) ∧
      c.Contest id first second s t a' b' c₁ := by
  induction turns generalizing a b c' with
  | nil => exact ⟨a, b, c', rfl, h⟩
  | cons turn rest ih => cases turn with
    | first => exact ih (contest_first hs hf h)
    | second => exact ih (contest_second ht hf h)

/-- Of two openings that go on to their ends, one has its session registered and the other is
refused. -/
theorem contest_complete (hs : c.Admits id first s) (ht : c.Admits id second t)
    (hf : ¬c.isRegistered id) (h : c.Contest id first second s t a b c') :
    ((c'.complete id first a).1, (c'.complete id first a).2.complete id second b) =
        (.ok id, .error (.duplicateSession id), c.won id s) ∨
      ((c'.complete id first a).1, (c'.complete id first a).2.complete id second b) =
        (.error (.duplicateSession id), .ok id, c.won id t) := by
  cases h with
  | undecided a b ha hb =>
    have hlate := complete_late (ht.won s) (isRegistered_won c id s) (.underway b hb) 0
    rw [Nat.zero_add] at hlate
    rw [Nat.add_comm, complete_free hs hf ha b.held, hlate]
    exact .inl rfl
  | first b hb =>
    have hlate := complete_late (ht.won s) (isRegistered_won c id s) hb 0
    rw [Nat.zero_add] at hlate
    rw [complete_done, hlate]
    exact .inl rfl
  | second a ha =>
    have hlate := complete_late (hs.won t) (isRegistered_won c id t) ha 0
    rw [Nat.zero_add] at hlate
    rw [hlate, complete_done]
    exact .inr rfl

theorem openPair_free (hs : c.Admits id first s) (ht : c.Admits id second t)
    (hf : ¬c.isRegistered id) (turns : List Turn) :
    c.openPair id first second turns =
        (.ok id, .error (.duplicateSession id), c.won id s) ∨
      c.openPair id first second turns =
        (.error (.duplicateSession id), .ok id, c.won id t) := by
  obtain ⟨a, b, c', hi, hcontest⟩ :=
    contest_interleave hs ht hf turns (.undecided .asked .asked .asked .asked)
  have hi' : c.interleave id first second .asked .asked turns = (a, b, c') := hi
  have hend := contest_complete hs ht hf hcontest
  unfold openPair
  rw [hi']
  exact hend

theorem advance_barred (request : ViewRequest) (hr : c.isRegistered id) (ho : o.Barred id) :
    ∃ o', c.advance id request o = (o', c) ∧ o'.Barred id := by
  rcases ho with rfl | rfl
  · exact ⟨_, advance_asked_taken hr, .inr rfl⟩
  · exact ⟨_, rfl, .inr rfl⟩

theorem complete_barred (hr : c.isRegistered id) (ho : o.Barred id) :
    c.complete id request o = (.error (.duplicateSession id), c) := by
  rcases ho with rfl | rfl
  · rw [← complete_advance, advance_asked_taken hr, complete_done]
  · exact complete_done _ _

theorem interleave_barred (first second : ViewRequest) (hr : c.isRegistered id) (ha : a.Barred id)
    (hb : b.Barred id) (turns : List Turn) :
    ∃ a' b', c.interleave id first second a b turns = (a', b', c) ∧
      a'.Barred id ∧ b'.Barred id := by
  induction turns generalizing a b with
  | nil => exact ⟨a, b, rfl, ha, hb⟩
  | cons turn rest ih => cases turn with
    | first =>
      obtain ⟨a', he, ha'⟩ := advance_barred first hr ha
      rw [interleave, he]
      exact ih ha' hb
    | second =>
      obtain ⟨b', he, hb'⟩ := advance_barred second hr hb
      rw [interleave, he]
      exact ih ha hb'

theorem openPair_taken (hr : c.isRegistered id) (turns : List Turn) :
    c.openPair id first second turns =
      (.error (.duplicateSession id), .error (.duplicateSession id), c) := by
  obtain ⟨a, b, hi, ha, hb⟩ :=
    interleave_barred first second hr (.inl rfl) (.inl rfl) turns
  unfold openPair
  rw [hi]
  simp only [complete_barred hr ha, complete_barred hr hb]

/-- One session more is registered than before, with one connection, and all others are as they
were. -/
structure Gains (c : Console) (id : String) (s : Session) (c' : Console) : Prop where
  session : c'.session? id = some s
  count : c'.registeredCount = c.registeredCount + 1
  connections : c'.connections = c.connections + 1
  others : ∀ h, h ≠ c.place id → c'.sessionAt h = c.sessionAt h
  outside : c'.catalog = c.catalog ∧ c'.links = c.links ∧ c'.handles = c.handles

theorem registeredCount_eq (c : Console) :
    c.registeredCount = c.sessions.entries.countP (·.2.current.isSome) := by
  unfold registeredCount SortedMap.values
  rw [← List.countP_eq_length_filter, List.countP_map]
  rfl

theorem registeredCount_putLineage (c : Console) (id : String) : ∃ rest,
    c.registeredCount = (c.isRegistered id).toNat + rest ∧
      ∀ l : Lineage, (c.putLineage id l).registeredCount = l.current.isSome.toNat + rest := by
  refine ⟨(c.sessions.erase id).entries.countP (·.2.current.isSome), ?_, fun l => ?_⟩
  · rw [registeredCount_eq, isRegistered, session?, lineage]
    cases hf : c.sessions.find? id with
    | none =>
      rw [SortedMap.erase_of_find?_none hf]
      exact (Nat.zero_add _).symm
    | some l =>
      rw [(SortedMap.entries_perm hf).countP_eq, List.countP_cons, Nat.add_comm,
        Option.getD_some]
      cases l.current <;> simp
  · rw [registeredCount_eq]
    change (c.sessions.insert id l).entries.countP _ = _
    rw [(SortedMap.entries_insert_perm c.sessions id l).countP_eq, List.countP_cons, Nat.add_comm]
    cases l.current <;> simp

theorem gains_won (hf : ¬c.isRegistered id) (s : Session) : c.Gains id s (c.won id s) where
  session := by
    change (c.putSession id s).session? id = some s
    unfold putSession session?
    rw [lineage_putLineage, if_pos rfl]
    rfl
  count := by
    obtain ⟨rest, hold, hnew⟩ := registeredCount_putLineage c id
    have hf' : c.isRegistered id = false := by simpa using hf
    rw [hf'] at hold
    have hcount := hnew ((c.lineage id).register s)
    change (c.putSession id s).registeredCount = _
    rw [putSession, hcount, hold, Nat.add_comm]
    simp [Lineage.register]
  connections := rfl
  others h hne := by
    change (c.putSession id s).sessionAt h = c.sessionAt h
    rw [sessionAt_putSession hf, if_neg hne]
  outside := ⟨rfl, rfl, rfl⟩

/-- However two openings under one id take turns, one session comes of them if the id is free, and
it is that of the one that is told so; if the id is taken they change nothing. Until it is closed, a
registered session stays in its place. -/
theorem one_registered (c : Console) (id : String) :
    (¬c.isRegistered id → ∀ first second s t, c.Admits id first s → c.Admits id second t →
      ∀ turns, ∃ c',
        (c.openPair id first second turns = (.ok id, .error (.duplicateSession id), c') ∧
          c.Gains id s c') ∨
        (c.openPair id first second turns = (.error (.duplicateSession id), .ok id, c') ∧
          c.Gains id t c')) ∧
    (c.isRegistered id → ∀ first second turns, c.openPair id first second turns =
      (.error (.duplicateSession id), .error (.duplicateSession id), c)) ∧
    ∀ s steps, c.session? id = some s → (∀ step ∈ steps, ¬step.closes id) →
      (c.run steps).place id = c.place id ∧
        ∃ deeds, (c.run steps).session? id = some (s.after deeds) ∧
          (s.after deeds).id = s.id ∧ (s.after deeds).relation = s.relation ∧
          (s.after deeds).query = s.query := by
  refine ⟨fun hf first second s t hs ht turns => ?_, fun hr first second turns => ?_,
    fun s steps hs hc => ?_⟩
  · rcases openPair_free hs ht hf turns with he | he
    · exact ⟨_, .inl ⟨he, gains_won hf s⟩⟩
    · exact ⟨_, .inr ⟨he, gains_won hf t⟩⟩
  · exact openPair_taken hr turns
  · have hr : c.isRegistered id := by rw [isRegistered, hs, Option.isSome_some]
    have hplace : (c.run steps).place id = c.place id := by
      rw [place_eq, place_eq, standing_run hc hr]
    refine ⟨hplace, c.history (c.place id) steps, ?_, s.after_target _⟩
    rw [← sessionAt_place_eq, hplace]
    exact sessionAt_run ((sessionAt_place_eq c id).trans hs) steps

theorem admits_of_isOk (id : String) (request : ViewRequest)
    (hc : (Faults.strike c.faults.connect (c.catalog.reach request.target.database)).isOk)
    (hp : (request.prepare (c.relation ⟨request.target.database⟩ request.target.oid)).isOk) :
    ∃ s, c.Admits id request s := by
  cases hk : Faults.strike c.faults.connect (c.catalog.reach request.target.database) with
  | error e => simp [hk, Except.isOk, Except.toBool] at hc
  | ok _ =>
    cases hr : request.prepare (c.relation ⟨request.target.database⟩ request.target.oid) with
    | error e => simp [hr, Except.isOk, Except.toBool] at hp
    | ok r => exact ⟨_, hk, r.1, r.2, hr, rfl⟩

def tableSteps : List Step :=
  [.createRelation ⟨1, 1, 16384⟩ ⟨"public", "t", .table, [⟨"id", "text", true⟩], []⟩]

def tableRequest (mode : ViewMode) : ViewRequest := ⟨⟨⟨1, 1, 16384⟩, 16386, .table⟩, mode, []⟩

def contestTurns : List Turn := [.first, .first, .second, .second, .second, .second]

/-- Both find the id free and connect, and the second is the first to register its session. -/
theorem one_registered_second : ∃ (t : Session) (c' : Console),
    ((Console.new .standard 1).run tableSteps).openPair "x" (tableRequest .allRows)
      (tableRequest .lastRows) contestTurns = (.error (.duplicateSession "x"), .ok "x", c') ∧
    c'.session? "x" = some t ∧ c'.connections = 1 ∧ c'.registeredCount = 1 ∧
    c'.openPair "x" (tableRequest .allRows) (tableRequest .allRows) [.second] =
      (.error (.duplicateSession "x"), .error (.duplicateSession "x"), c') ∧
    (c'.run [.start "x", .openSession "x" (tableRequest .allRows)]).place "x" = c'.place "x" := by
  have hf : ¬((Console.new .standard 1).run tableSteps).isRegistered "x" := by
    decide +kernel
  have hconnect : (Faults.strike ((Console.new .standard 1).run tableSteps).faults.connect
      (((Console.new .standard 1).run tableSteps).catalog.reach ⟨1, 1, 16384⟩)).isOk := by
    decide +kernel
  have hprepare : ∀ mode ∈ [ViewMode.allRows, .lastRows], ((tableRequest mode).prepare
      (((Console.new .standard 1).run tableSteps).relation ⟨⟨1, 1, 16384⟩⟩ 16386)).isOk := by
    decide +kernel
  have hlost : (((Console.new .standard 1).run tableSteps).openPair "x" (tableRequest .allRows)
      (tableRequest .lastRows) contestTurns).1.isOk = false := by
    decide +kernel
  have hcounts : ((Console.new .standard 1).run tableSteps).connections = 0 ∧
      ((Console.new .standard 1).run tableSteps).registeredCount = 0 := by
    decide +kernel
  generalize (Console.new .standard 1).run tableSteps = c at *
  obtain ⟨s, hs⟩ := admits_of_isOk "x" (tableRequest .allRows) hconnect
    (hprepare .allRows (by simp))
  obtain ⟨t, ht⟩ := admits_of_isOk "x" (tableRequest .lastRows) hconnect
    (hprepare .lastRows (by simp))
  obtain ⟨c', ⟨he, _⟩ | ⟨he, hgains⟩⟩ := (one_registered c "x").1 hf _ _ s t hs ht contestTurns
  · rw [he] at hlost
    cases hlost
  · have hr : c'.isRegistered "x" := by rw [isRegistered, hgains.session, Option.isSome_some]
    obtain ⟨_, htaken, hstays⟩ := one_registered c' "x"
    obtain ⟨hplace, _⟩ := hstays t [.start "x", .openSession "x" (tableRequest .allRows)]
      hgains.session (by simp [Step.closes, Step.calls, Call.closes])
    refine ⟨t, c', he, hgains.session, ?_, ?_, htaken hr _ _ _, hplace⟩
    · rw [hgains.connections, hcounts.1]
    · rw [hgains.count, hcounts.2]

end Console

end DbConsole
