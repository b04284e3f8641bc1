import DbConsole.Proofs.View.Deeds

namespace DbConsole.Session

variable {s t : Session}

def tally (count : Session → Deed → Nat) (s : Session) : List Deed → Nat
  | [] => 0
  | d :: rest => count s d + (s.undergo d).tally count rest

def startOf (s : Session) : Deed → Nat
  | .act .start size => (s.start size).isOk.toNat
  | _ => 0

def executionOf (s : Session) : Deed → Nat
  | .settle _ => s.isDue.toNat
  | _ => 0

theorem tally_append (count : Session → Deed → Nat) (s : Session) (deeds more : List Deed) :
    s.tally count (deeds ++ more) = s.tally count deeds + (s.after deeds).tally count more := by
  induction deeds generalizing s with
  | nil => exact (Nat.zero_add _).symm
  | cons d rest ih =>
    rw [List.cons_append, tally, ih, ← Nat.add_assoc]
    rfl

/-- What each deed counts is paid for by what is allowed for it, or out of a potential. -/
theorem tally_le {f g : Session → Deed → Nat} {p : Session → Nat}
    (h : ∀ s d, f s d + p (s.undergo d) ≤ g s d + p s) (s : Session) (deeds : List Deed) :
    s.tally f deeds + p (s.after deeds) ≤ s.tally g deeds + p s := by
  induction deeds generalizing s with
  | nil => exact Nat.le_refl _
  | cons d rest ih =>
    have hd := h s d
    have hrest := ih (s.undergo d)
    simp only [tally]
    change _ + p ((s.undergo d).after rest) ≤ _
    omega

theorem tally_zero (s : Session) (deeds : List Deed) : s.tally (fun _ _ => 0) deeds = 0 := by
  induction deeds generalizing s with
  | nil => rfl
  | cons d rest ih => rw [tally, ih]

theorem start_of_not_initialized (h : s.state.phase ≠ .initialized) (size : Nat) :
    (s.start size).isOk = false := by
  cases hs : s.start size with
  | ok r =>
    obtain ⟨hst, _⟩ := start_eq_ok hs
    rw [hst] at h
    exact (h rfl).elim
  | error e => rfl

/-- Whether the session can still be started, going by its state. -/
def isFresh (s : Session) : Bool := s.state.phase == .initialized

theorem Effect.isFresh_le (h : s.Effect t) : t.isFresh.toNat ≤ s.isFresh.toNat := by
  cases h with
  | started => exact Nat.zero_le _
  | ended state hd hf =>
    have hn : isFresh { s with state, run := none } = false := by
      unfold isFresh
      cases hp : state.phase <;> simp [hp, Phase.isFinal] at hf ⊢
    rw [hn]
    exact Nat.zero_le _
  | stay | looked | closed | stalled => exact Nat.le_refl _

theorem startOf_undergo (s : Session) (d : Deed) :
    s.startOf d + (s.undergo d).isFresh.toNat ≤ 0 + s.isFresh.toNat := by
  have hle := (effect_undergo s d).isFresh_le
  rw [Nat.zero_add]
  cases d with
  | act a size =>
    by_cases ha : a = .start
    · subst ha
      simp only [startOf]
      cases hs : s.start size with
      | ok r =>
        obtain ⟨hst, _, k, _, hr⟩ := start_eq_ok hs
        have hfresh : s.isFresh = true := by
          rw [isFresh, hst]
          rfl
        have hspent : (s.undergo (.act .start size)).isFresh = false := by
          rw [undergo, act_start_of_ok hs, hr]
          rfl
        rw [hfresh, hspent]
        exact Nat.le_refl _
      | error e =>
        simp only [Except.isOk, Except.toBool, Bool.toNat_false]
        omega
    · have hn : s.startOf (.act a size) = 0 := by
        cases a with
        | start => exact (ha rfl).elim
        | poll | fetch => rfl
      rw [hn, Nat.zero_add]
      exact hle
  | close | settle =>
    simp only [startOf]
    omega

theorem executionOf_undergo (s : Session) (d : Deed) :
    s.executionOf d + (s.undergo d).isDue.toNat ≤ s.startOf d + s.isDue.toNat := by
  cases d with
  | act a size =>
    by_cases ha : a = .start
    · subst ha
      simp only [undergo, executionOf, startOf]
      cases hs : s.start size with
      | ok r =>
        have hle := Bool.toNat_le (s.act size .start).isDue
        simp only [Except.isOk, Except.toBool, Bool.toNat_true]
        omega
      | error e =>
        rw [act_start_of_error hs]
        exact Nat.le_refl _
    · obtain ⟨cursor, he⟩ := act_eq_cursor ha s size
      have hd : (s.undergo (.act a size)).isDue = s.isDue := by
        rw [undergo, he]
        rfl
      rw [hd]
      exact Nat.add_le_add_right (Nat.zero_le _) _
  | close => exact Nat.zero_le _
  | settle stream =>
    simp only [undergo, executionOf, startOf, isDue_settle, Bool.toNat_false]
    omega

/-- One start of all succeeds at most, and the query is not carried out but for a start. -/
theorem starts_le (hs : s.isDue = false) (deeds : List Deed) :
    s.tally startOf deeds ≤ 1 ∧ s.tally executionOf deeds ≤ s.tally startOf deeds := by
  have hstarts := tally_le (g := fun _ _ => 0) (p := fun s => s.isFresh.toNat) startOf_undergo s
    deeds
  have hruns := tally_le (p := fun s => s.isDue.toNat) executionOf_undergo s deeds
  have hle := Bool.toNat_le s.isFresh
  rw [tally_zero] at hstarts
  rw [hs, Bool.toNat_false] at hruns
  exact ⟨by omega, by omega⟩

end DbConsole.Session
