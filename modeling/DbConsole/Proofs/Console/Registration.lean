import DbConsole.Proofs.Console.Deeds

namespace DbConsole

namespace Call

def opens (id : String) : Call → Prop
  | .openSession id' _ | .openPair id' _ _ => id' = id
  | _ => False

def closes (id : String) : Call → Prop
  | .close id' => id' = id
  | .closeAll => True
  | _ => False

end Call

def Step.opens (id : String) (step : Step) : Prop := ∃ a ∈ step.calls, a.opens id

def Step.closes (id : String) (step : Step) : Prop := ∃ a ∈ step.calls, a.closes id

namespace Console

/-- What a console knows of an id: how many sessions under it are registered no more, and whether
one is. -/
def standing (c : Console) (id : String) : Nat × Bool := (c.lineage id).standing

variable {c c' : Console} {h : Handle} {s : Session} {id id' : String}

theorem place_eq (c : Console) (id : String) : c.place id = ⟨id, (c.standing id).1⟩ := rfl

theorem isRegistered_eq (c : Console) (id : String) : c.isRegistered id = (c.standing id).2 := rfl

theorem lineage_putLineage (c : Console) (id : String) (l : Lineage) (id' : String) :
    (c.putLineage id l).lineage id' = if id' = id then l else c.lineage id' := by
  unfold lineage putLineage
  rw [SortedMap.find?_insert]
  split <;> rfl

theorem lineage_map {f : Lineage → Lineage} (hf : f .empty = .empty) (c : Console) (id : String) :
    (c.replaceSessions (c.sessions.map f)).lineage id = f (c.lineage id) := by
  unfold lineage replaceSessions release
  dsimp only
  rw [SortedMap.find?_map]
  cases c.sessions.find? id with
  | none => rw [Option.map_none, Option.getD_none, hf]
  | some l => rfl

theorem standing_congr (hs : c'.sessions = c.sessions) (id : String) :
    c'.standing id = c.standing id := by
  unfold standing lineage
  rw [hs]

theorem standing_putHeld (c : Console) (h : Handle) (s : Session) (id : String) :
    (c.putHeld h s).standing id = c.standing id := by
  unfold standing putHeld
  rw [lineage_putLineage]
  split
  · next he => rw [he, Lineage.standing_set]
  · rfl

theorem standing_actAt (c : Console) (h : Handle) (a : Act) (size : Nat) (id : String) :
    (c.actAt h a size).standing id = c.standing id := by
  unfold actAt
  split
  · exact standing_putHeld c h _ id
  · rfl

theorem standing_settle (c : Console) (id : String) : c.settle.standing id = c.standing id := by
  unfold standing settle
  rw [lineage_map rfl, Lineage.standing_map]

theorem standing_close (c : Console) (id id' : String) :
    (c.close id).2.standing id' =
      if id' = id then ((c.standing id).1 + (c.standing id).2.toNat, false)
      else c.standing id' := by
  cases hs : c.session? id with
  | none =>
    rw [close_of_none hs]
    split
    · next he =>
      have hn : (c.standing id).2 = false := by
        rw [← isRegistered_eq, isRegistered, hs, Option.isSome_none]
      rw [he, Prod.ext_iff]
      exact ⟨by simp [hn], hn⟩
    · rfl
  | some s =>
    rw [close_of_some hs]
    change (c.putLineage id (c.lineage id).retire).standing id' = _
    unfold standing
    rw [lineage_putLineage]
    split
    · next he => rw [Lineage.standing_retire]
    · rfl

theorem standing_of_openings (hm : Relation.ReflTransGen (OpenMove id) c c') (id' : String) :
    (c'.standing id').1 = (c.standing id').1 ∧
      (c.isRegistered id' ∨ id' ≠ id → c'.standing id' = c.standing id') := by
  induction hm with
  | refl => exact ⟨rfl, fun _ => rfl⟩
  | @tail c₁ c₂ _ hm ih =>
    obtain ⟨hplace, hkeep⟩ := ih
    cases hm with
    | opened request r q hf hr hp =>
      have hl : (c₁.putSession id (.new id r q ⟨request.target.database⟩)).lineage id' =
          if id' = id then (c₁.lineage id).register (.new id r q ⟨request.target.database⟩)
          else c₁.lineage id' := lineage_putLineage ..
      change ((c₁.putSession id _).standing id').1 = _ ∧
        (_ → (c₁.putSession id _).standing id' = _)
      unfold standing
      rw [hl]
      split
      · next he =>
        subst he
        refine ⟨hplace, fun hk => ?_⟩
        rcases hk with hk | hk
        · rw [isRegistered_eq, hkeep (.inl hk), ← isRegistered_eq] at hf
          exact (hf hk).elim
        · exact (hk rfl).elim
      · exact ⟨hplace, hkeep⟩

theorem standing_call {a : Call} (hc : ¬a.closes id) (ho : c.isRegistered id ∨ ¬a.opens id) :
    (c.call a).standing id = c.standing id := by
  cases a with
  | openSession id' request =>
    exact (standing_of_openings (openSession_moves id' request c) id).2
      (ho.imp_right fun hn he => hn he.symm)
  | openPair id' request turns =>
    exact (standing_of_openings (openPair_moves id' request request c turns) id).2
      (ho.imp_right fun hn he => hn he.symm)
  | registered id' a => exact standing_actAt c _ a _ id
  | close id' =>
    simp only [call, standing_close]
    rw [if_neg fun he => hc he.symm]
  | held name a size =>
    simp only [call]
    cases c.handles.find? name with
    | none => rfl
    | some h => exact standing_actAt c h a size id
  | closeHeld name =>
    simp only [call]
    cases c.held? name with
    | none => rfl
    | some r => exact standing_putHeld c r.1 _ id
  | closeAll => exact (hc trivial).elim
  | settle => exact standing_settle c id

theorem standing_callAll {calls : List Call} (hc : ∀ a ∈ calls, ¬a.closes id)
    (ho : c.isRegistered id ∨ ∀ a ∈ calls, ¬a.opens id) :
    (c.callAll calls).standing id = c.standing id := by
  induction calls generalizing c with
  | nil => rfl
  | cons a rest ih =>
    have ha := standing_call (hc a (.head _)) (ho.imp_right fun hn => hn a (.head _))
    rw [← ha]
    refine ih (fun b hb => hc b (.tail _ hb)) (ho.imp (fun hr => ?_) fun hn b hb => ?_)
    · rw [isRegistered_eq, ha]
      exact hr
    · exact hn b (.tail _ hb)

variable {step : Step} {steps : List Step}

theorem standing_step_eq (c : Console) (step : Step) (id : String) :
    (c.step step).2.standing id = (c.callAll step.calls).standing id :=
  standing_congr (sessions_step c step) id

theorem standing_step (hc : ¬step.closes id) (ho : c.isRegistered id ∨ ¬step.opens id) :
    (c.step step).2.standing id = c.standing id := by
  rw [standing_step_eq]
  exact standing_callAll (fun a ha hca => hc ⟨a, ha, hca⟩)
    (ho.imp_right fun hn a ha hoa => hn ⟨a, ha, hoa⟩)

theorem standing_run (hc : ∀ step ∈ steps, ¬step.closes id) (hr : c.isRegistered id) :
    (c.run steps).standing id = c.standing id := by
  induction steps generalizing c with
  | nil => rfl
  | cons step rest ih =>
    have hstep := standing_step (hc step (.head _)) (.inl hr)
    rw [← hstep]
    refine ih (fun later hm => hc later (.tail _ hm)) ?_
    rw [isRegistered_eq, hstep]
    exact hr

end Console

end DbConsole
