import DbConsole.Proofs.Console.Step

namespace DbConsole

namespace Console

/-- The sessions that can be opened under an id. -/
inductive Opens (c : Console) (id : String) : Session → Prop where
  | prepared (request : ViewRequest) (r : Relation) (q : Select)
    (hp : request.prepare (c.catalog.relation request.target.database request.target.oid) =
      .ok (r, q)) : Opens c id (.new id r q ⟨request.target.database⟩)

/-- What one move can make of a session. -/
inductive Changes (c : Console) (s : Session) : Session → Prop where
  | act (s' : Session) (ha : s.Acts s') : Changes c s s'
  | close : Changes c s s.close
  | settle : Changes c s (s.settle fun k batchSize => c.stream k s.query batchSize)

/-- What one move can make of what a handle with the id leads to. -/
inductive Turns (c : Console) (id : String) : Option Session → Option Session → Prop where
  | stay (s : Option Session) : Turns c id s s
  | opened (s : Session) (ho : c.Opens id s) : Turns c id none (some s)
  | changed (s s' : Session) (hc : c.Changes s s') : Turns c id (some s) (some s')

variable {c c' : Console} {h h₀ : Handle} {s s' : Session} {id : String}

theorem sessionAt_eq (c : Console) (h : Handle) :
    c.sessionAt h = (c.lineage h.id).all[h.place]? := Lineage.get?_eq ..

theorem sessionAt_new (catalog : Catalog) (pageSize : Nat) (h : Handle) :
    (Console.new catalog pageSize).sessionAt h = none := by
  rw [sessionAt_eq]
  rfl

theorem sessionAt_putLineage (c : Console) (id : String) (l : Lineage) (h : Handle) :
    (c.putLineage id l).sessionAt h =
      if h.id = id then l.all[h.place]? else c.sessionAt h := by
  rw [sessionAt_eq, sessionAt_eq]
  unfold lineage putLineage
  rw [SortedMap.find?_insert]
  split <;> rfl

theorem sessionAt_set (hs : c.sessionAt h₀ = some s) {l : Lineage}
    (hl : l.all = (c.lineage h₀.id).all.set h₀.place s') (h : Handle) :
    (c.putLineage h₀.id l).sessionAt h = if h = h₀ then some s' else c.sessionAt h := by
  rw [sessionAt_eq] at hs
  obtain ⟨hlt, _⟩ := List.getElem?_eq_some_iff.mp hs
  obtain ⟨id, place⟩ := h
  obtain ⟨id₀, place₀⟩ := h₀
  rw [sessionAt_putLineage, hl, List.getElem?_set, sessionAt_eq]
  simp only [Handle.mk.injEq]
  by_cases hid : id = id₀
  · subst hid
    by_cases hp : place = place₀
    · subst hp
      simp [hlt]
    · simp [hp, Ne.symm hp]
  · simp [hid]

theorem sessionAt_putHeld (hs : c.sessionAt h₀ = some s) (s' : Session) (h : Handle) :
    (c.putHeld h₀ s').sessionAt h = if h = h₀ then some s' else c.sessionAt h :=
  sessionAt_set hs (Lineage.all_set hs s') h

theorem sessionAt_retire (hs : c.session? id = some s) (h : Handle) :
    (c.putLineage id (c.lineage id).retire).sessionAt h =
      if h = c.place id then some s.close else c.sessionAt h :=
  sessionAt_set (sessionAt_place hs) (Lineage.all_retire hs) h

theorem sessionAt_putSession (hf : ¬c.isRegistered id) (s : Session) (h : Handle) :
    (c.putSession id s).sessionAt h = if h = c.place id then some s else c.sessionAt h := by
  have hn : (c.lineage id).current = none := by
    simpa [isRegistered, session?] using hf
  have hlen : (c.lineage id).all.length = (c.lineage id).retired.length := by
    simp [Lineage.all, hn]
  obtain ⟨id', place⟩ := h
  unfold putSession Console.place
  rw [sessionAt_putLineage, Lineage.all_register hn, sessionAt_eq, ← hlen]
  simp only [Handle.mk.injEq]
  by_cases hid : id' = id
  · subst hid
    rcases Nat.lt_trichotomy place (c.lineage id').all.length with hlt | heq | hgt
    · simp [List.getElem?_append_left hlt, Nat.ne_of_lt hlt]
    · simp [heq]
    · have hnone : (c.lineage id').all[place]? = none :=
        List.getElem?_eq_none (Nat.le_of_lt hgt)
      have hlong : ((c.lineage id').all ++ [s]).length ≤ place := by
        rw [List.length_append]
        exact hgt
      simp [List.getElem?_eq_none hlong, hnone, Nat.ne_of_gt hgt]
  · simp [hid]

theorem sessionAt_replaceSessions {f : Lineage → Lineage} (hf : f .empty = .empty) (c : Console)
    (h : Handle) : (c.replaceSessions (c.sessions.map f)).sessionAt h =
      (f (c.lineage h.id)).all[h.place]? := by
  rw [sessionAt_eq]
  unfold lineage replaceSessions release
  dsimp only
  rw [SortedMap.find?_map]
  cases c.sessions.find? h.id with
  | none => rw [Option.map_none, Option.getD_none, hf]
  | some l => rfl

theorem sessionAt_settle (c : Console) (h : Handle) : c.settle.sessionAt h =
    (c.sessionAt h).map fun s => s.settle fun k batchSize => c.stream k s.query batchSize := by
  unfold settle
  rw [sessionAt_replaceSessions rfl, Lineage.all_map, List.getElem?_map, sessionAt_eq]

theorem turns_set (hs : c.sessionAt h₀ = some s) (hc : c.Changes s s')
    (hset : ∀ h, c'.sessionAt h = if h = h₀ then some s' else c.sessionAt h) (h : Handle) :
    c.Turns h.id (c.sessionAt h) (c'.sessionAt h) := by
  rw [hset]
  split
  · next he =>
    rw [he, hs]
    exact .changed s s' hc
  · exact .stay _

theorem turns_closeAll (c : Console) (h : Handle) :
    c.Turns h.id (c.sessionAt h) (c.closeAll.sessionAt h) := by
  unfold closeAll
  rw [sessionAt_replaceSessions rfl, sessionAt_eq]
  cases hl : (c.lineage h.id).current with
  | none =>
    rw [Lineage.retire_of_none hl]
    exact .stay _
  | some s =>
    rw [Lineage.all_retire hl, List.getElem?_set]
    split
    · next he =>
      have hs := Lineage.get?_current hl
      rw [Lineage.get?_eq] at hs
      obtain ⟨hlt, _⟩ := List.getElem?_eq_some_iff.mp hs
      rw [← he, if_pos hlt, hs]
      exact .changed s s.close .close
    · exact .stay _

theorem turns_of_move (hm : c.SessionMove c') (h : Handle) :
    c.Turns h.id (c.sessionAt h) (c'.sessionAt h) := by
  cases hm with
  | opened id request r q hf hr hp =>
    change c.Turns h.id (c.sessionAt h) ((c.putSession id _).sessionAt h)
    rw [sessionAt_putSession hf]
    split
    · next he =>
      have hn : c.sessionAt h = none := by
        have hcur : (c.lineage id).current = none := by
          simpa [isRegistered, session?] using hf
        rw [he, sessionAt_eq]
        simp [Console.place, Lineage.all, hcur]
      rw [hn, he]
      exact .opened _ (.prepared request r q hp)
    · exact .stay _
  | act h₀ s s' hs ha => exact turns_set hs (.act s' ha) (sessionAt_putHeld hs s') h
  | closeHeld h₀ s hs => exact turns_set hs .close (sessionAt_putHeld hs s.close) h
  | close id s hs => exact turns_set (sessionAt_place hs) .close (sessionAt_retire hs) h
  | closeAll => exact turns_closeAll c h
  | settle =>
    rw [sessionAt_settle]
    cases c.sessionAt h with
    | none => exact .stay _
    | some s => exact .changed s _ .settle

abbrev Evolves (c : Console) : Session → Session → Prop := Relation.ReflTransGen c.Changes

theorem faults_eq_of_sessions (h : Relation.ReflTransGen SessionMove c c') :
    c'.faults = c.faults := by
  induction h with
  | refl => rfl
  | tail _ hm ih =>
    rw [← ih]
    cases hm <;> rfl

theorem faults_eq_of_moves (h : c.Moves c') : c'.faults = c.faults := by
  cases h with
  | stay => rfl
  | outer _ h => cases h <;> rfl
  | sessions _ h => exact faults_eq_of_sessions h

theorem turns_congr (hc : c'.catalog = c.catalog) (hf : c'.faults = c.faults)
    {s s' : Option Session} (ht : c'.Turns id s s') : c.Turns id s s' := by
  cases ht with
  | stay => exact .stay _
  | opened s ho =>
    obtain ⟨request, r, q, hp⟩ := ho
    rw [hc] at hp
    exact .opened _ (.prepared request r q hp)
  | changed s s' hch =>
    cases hch with
    | act _ ha => exact .changed s s' (.act s' ha)
    | close => exact .changed s _ .close
    | settle =>
      unfold stream
      rw [hc, hf]
      exact .changed s _ .settle

theorem evolves_of_sessions (hm : Relation.ReflTransGen SessionMove c c') (h : Handle) :
    (∀ s, c.sessionAt h = some s → ∃ s', c'.sessionAt h = some s' ∧ c.Evolves s s') ∧
      (c.sessionAt h = none → ∀ s', c'.sessionAt h = some s' →
        ∃ s, c.Opens h.id s ∧ c.Evolves s s') := by
  induction hm with
  | refl =>
    refine ⟨fun s hs => ⟨s, hs, .refl⟩, fun hn s' hs' => ?_⟩
    rw [hn] at hs'
    cases hs'
  | @tail c₁ c₂ hm₁ hm₂ ih =>
    obtain ⟨hold, hnew⟩ := ih
    -- The last move is one of `c₁`, which has the catalog and the faults of `c`.
    have ht := turns_congr (catalog_eq_of_sessions hm₁) (faults_eq_of_sessions hm₁)
      (turns_of_move hm₂ h)
    generalize hx₁ : c₁.sessionAt h = x₁ at ht
    generalize hx₂ : c₂.sessionAt h = x₂ at ht
    rw [hx₁] at hold hnew
    cases ht with
    | stay => exact ⟨hold, hnew⟩
    | opened s ho =>
      refine ⟨fun s₀ hs₀ => ?_, fun _ s' hs' => ?_⟩
      · obtain ⟨s', hs', _⟩ := hold s₀ hs₀
        cases hs'
      · cases hs'
        exact ⟨s, ho, .refl⟩
    | changed s s' hc =>
      refine ⟨fun s₀ hs₀ => ?_, fun hn s₂ hs₂ => ?_⟩
      · obtain ⟨s₁, hs₁, he⟩ := hold s₀ hs₀
        cases hs₁
        exact ⟨s', rfl, he.tail hc⟩
      · cases hs₂
        obtain ⟨s₀, ho, he⟩ := hnew hn s rfl
        exact ⟨s₀, ho, he.tail hc⟩

theorem sessionAt_congr (hs : c'.sessions = c.sessions) (h : Handle) :
    c'.sessionAt h = c.sessionAt h := by
  unfold sessionAt lineage
  rw [hs]

theorem evolves_of_moves (hm : c.Moves c') (h : Handle) :
    (∀ s, c.sessionAt h = some s → ∃ s', c'.sessionAt h = some s' ∧ c.Evolves s s') ∧
      (c.sessionAt h = none → ∀ s', c'.sessionAt h = some s' →
        ∃ s, c.Opens h.id s ∧ c.Evolves s s') := by
  cases hm with
  | stay => exact evolves_of_sessions .refl h
  | outer _ hm =>
    rw [sessionAt_congr (sessions_eq_of_outerMoves (.single hm))]
    exact evolves_of_sessions .refl h
  | sessions _ hm => exact evolves_of_sessions hm h

end Console

end DbConsole
