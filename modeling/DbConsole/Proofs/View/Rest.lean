import DbConsole.Proofs.View.Deeds

namespace DbConsole.Session

variable {s t : Session}

/-- A session in which nothing moves any more: it can no longer be started, and no query of it will
be carried out. -/
structure AtRest (s : Session) : Prop where
  notDue : s.isDue = false
  noStart : s.state.phase ≠ .initialized ∨ s.cancelled = true

theorem AtRest.start (h : s.AtRest) (size : Nat) : ∃ e, s.start size = .error e := by
  cases hs : s.start size with
  | error e => exact ⟨e, rfl⟩
  | ok r =>
    obtain ⟨hst, hc, _⟩ := start_eq_ok hs
    rcases h.noStart with hn | hn
    · rw [hst] at hn
      exact (hn rfl).elim
    · cases hc.symm.trans hn

/-- Nothing that is done to a session at rest can do more to it than this. -/
theorem AtRest.effect (h : s.AtRest) (he : s.Effect t) :
    t = s.close ∨ ∃ cursor, t = { s with cursor } := by
  cases he with
  | stay => exact .inr ⟨s.cursor, rfl⟩
  | started k size hs hc hk =>
    rcases h.noStart with hn | hn
    · rw [hs] at hn
      exact (hn rfl).elim
    · cases hc.symm.trans hn
  | looked cursor => exact .inr ⟨cursor, rfl⟩
  | closed => exact .inl rfl
  | ended state hd hf => cases h.notDue.symm.trans hd
  | stalled k size hd => cases h.notDue.symm.trans hd

theorem atRest_close (s : Session) : s.close.AtRest := ⟨rfl, .inr rfl⟩

theorem AtRest.after (h : s.AtRest) (deeds : List Deed) :
    (s.after deeds).AtRest ∧ (s.after deeds).state = s.state := by
  induction deeds generalizing s with
  | nil => exact ⟨h, rfl⟩
  | cons d rest ih =>
    have hd : (s.undergo d).AtRest ∧ (s.undergo d).state = s.state := by
      rcases h.effect (effect_undergo s d) with he | ⟨cursor, he⟩
      · rw [he]
        exact ⟨s.atRest_close, rfl⟩
      · rw [he]
        exact ⟨⟨h.notDue, h.noStart⟩, rfl⟩
    obtain ⟨hrest, hst⟩ := ih hd.1
    exact ⟨hrest, hst.trans hd.2⟩

end DbConsole.Session
