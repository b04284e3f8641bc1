import DbConsole.Proofs.Console.Connections
import DbConsole.Proofs.Console.Registration

namespace DbConsole.Console

variable {c : Console} {h h₀ : Handle} {s : Session}

def settled (c : Console) (s : Session) : Session :=
  s.settle fun k batchSize => c.stream k s.query batchSize

/-- Carries out the query of one session, if it has been started. -/
def settleAt (c : Console) (h : Handle) : Console :=
  match c.sessionAt h with
  | some s => (c.putHeld h (c.settled s)).release (s.connections - (c.settled s).connections)
  | none => c

theorem settled_settled (c : Console) (s : Session) : c.settled (c.settled s) = c.settled s :=
  Session.settle_of_not_due (Session.isDue_settle s _) _

theorem settleAt_of_some (hs : c.sessionAt h = some s) : c.settleAt h =
    (c.putHeld h (c.settled s)).release (s.connections - (c.settled s).connections) := by
  unfold settleAt
  rw [hs]

theorem settleAt_of_none (hn : c.sessionAt h = none) : c.settleAt h = c := by
  unfold settleAt
  rw [hn]

theorem sessionAt_settleAt (c : Console) (h₀ h : Handle) : (c.settleAt h₀).sessionAt h =
    if h = h₀ then (c.sessionAt h).map c.settled else c.sessionAt h := by
  cases hs : c.sessionAt h₀ with
  | none =>
    rw [settleAt_of_none hs]
    split
    · next he => rw [he, hs, Option.map_none]
    · rfl
  | some s =>
    rw [settleAt_of_some hs]
    change (c.putHeld h₀ (c.settled s)).sessionAt h = _
    rw [sessionAt_putHeld hs]
    split
    · next he => rw [he, hs, Option.map_some]
    · rfl

theorem due_of_settleAt (hs : (c.settleAt h₀).sessionAt h = some s) (hd : s.isDue = true) :
    h ≠ h₀ ∧ c.sessionAt h = some s := by
  rw [sessionAt_settleAt] at hs
  split at hs
  · obtain ⟨t, _, rfl⟩ := Option.map_eq_some_iff.mp hs
    have hn : (c.settled t).isDue = false := Session.isDue_settle t _
    rw [hn] at hd
    cases hd
  · next hne => exact ⟨hne, hs⟩

theorem replaceSessions_self (c : Console) : c.replaceSessions c.sessions = c := by
  unfold replaceSessions release
  rw [Nat.sub_self, Nat.sub_zero]

theorem replaceSessions_replaceSessions {sessions sessions' : SortedMap String Lineage}
    (hle : ownedConnections sessions ≤ ownedConnections c.sessions)
    (hle' : ownedConnections sessions' ≤ ownedConnections sessions) :
    (c.replaceSessions sessions).replaceSessions sessions' = c.replaceSessions sessions' := by
  have hn : c.connections - (ownedConnections c.sessions - ownedConnections sessions) -
      (ownedConnections sessions - ownedConnections sessions') =
        c.connections - (ownedConnections c.sessions - ownedConnections sessions') := by
    omega
  exact congrArg (fun n => { c with sessions := sessions', connections := n }) hn

theorem connections_settled_le (c : Console) (s : Session) :
    (c.settled s).connections ≤ s.connections := Session.connections_settle_le s _

theorem ownedConnections_putHeld (hs : c.sessionAt h = some s) {s' : Session}
    (hle : s'.connections ≤ s.connections) : ownedConnections c.sessions =
      ownedConnections (c.putHeld h s').sessions + (s.connections - s'.connections) := by
  obtain ⟨rest, hold, hnew⟩ := opened_putHeld hs
  rw [ownedConnections_eq, ownedConnections_eq, owned_perm hold, owned_perm (hnew s')]
  omega

theorem settleAt_eq (hs : c.sessionAt h = some s) :
    c.settleAt h = c.replaceSessions (c.putHeld h (c.settled s)).sessions := by
  have ho := ownedConnections_putHeld hs (c.connections_settled_le s)
  rw [settleAt_of_some hs]
  unfold replaceSessions
  rw [ho, Nat.add_sub_cancel_left]
  rfl

theorem settle_settleAt (c : Console) (h : Handle) : (c.settleAt h).settle = c.settle := by
  cases hs : c.sessionAt h with
  | none => rw [settleAt_of_none hs]
  | some s =>
    have hl : ((c.lineage h.id).set h.place (c.settled s)).map c.settled =
        (c.lineage h.id).map c.settled := by
      rw [Lineage.map_set, settled_settled]
      exact Lineage.set_self (by rw [Lineage.get?_map, ← sessionAt, hs, Option.map_some])
    have hmap : (c.putHeld h (c.settled s)).sessions.map (·.map c.settled) =
        c.sessions.map (·.map c.settled) :=
      SortedMap.map_insert_of_eq (find?_of_sessionAt hs) hl
    have ho := ownedConnections_putHeld hs (c.connections_settled_le s)
    have hle := ownedConnections_map_le (c.putHeld h (c.settled s)).sessions
      c.connections_map_settle_le
    rw [settleAt_eq hs]
    refine (replaceSessions_replaceSessions (by omega) hle).trans ?_
    exact congrArg c.replaceSessions hmap

theorem settle_of_idle (hc : ∀ s ∈ c.opened, s.isDue = false) : c.settle = c := by
  have hmap : c.sessions.map (·.map c.settled) = c.sessions := by
    apply SortedMap.ext_find?
    intro id
    rw [SortedMap.find?_map]
    cases hf : c.sessions.find? id with
    | none => rfl
    | some l =>
      refine congrArg some (Lineage.map_self fun s hs => Session.settle_of_not_due ?_ _)
      exact hc s (SortedMap.mem_gather.mpr ⟨(id, l), SortedMap.find?_eq_some_iff.mp hf, hs⟩)
  exact (congrArg c.replaceSessions hmap).trans c.replaceSessions_self

/-- In whatever order the sessions are settled, it comes to the same, if only none is left out. -/
theorem settle_eq_foldl (order : List Handle)
    (ho : ∀ h s, c.sessionAt h = some s → s.isDue = true → h ∈ order) :
    order.foldl settleAt c = c.settle := by
  induction order generalizing c with
  | nil =>
    refine (settle_of_idle fun s hs => ?_).symm
    obtain ⟨h, hs⟩ := mem_opened.mp hs
    cases hd : s.isDue with
    | false => rfl
    | true => exact (List.not_mem_nil (ho h s hs hd)).elim
  | cons h₀ rest ih =>
    rw [List.foldl_cons, ih, settle_settleAt]
    intro h s hs hd
    obtain ⟨hne, hs⟩ := due_of_settleAt hs hd
    exact (List.mem_cons.mp (ho h s hs hd)).resolve_left hne

end DbConsole.Console
