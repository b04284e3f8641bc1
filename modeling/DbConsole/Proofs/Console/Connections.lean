import DbConsole.Proofs.Console.Sessions
import Mathlib.Algebra.Order.BigOperators.Group.List
import Mathlib.Algebra.Order.Ring.Nat

namespace DbConsole

namespace Console

variable {c c' : Console} {s s' : Session}

def owned (c : Console) : Nat := (c.opened.map (·.connections)).sum

/-- The connections that are open are the ones that are used directly and those of the sessions. -/
def Accounted (c : Console) : Prop := c.connections = c.links.size + c.owned

theorem ownedConnections_eq (c : Console) : ownedConnections c.sessions = c.owned := by
  unfold ownedConnections owned opened SortedMap.values SortedMap.gather
  rw [Lineage.foldr_add]
  induction c.sessions.entries with
  | nil => rfl
  | cons e rest ih =>
    rw [List.map_cons, List.map_cons, List.sum_cons, ih, List.flatMap_cons, List.map_append,
      List.sum_append, Lineage.connections_eq]

theorem owned_perm {rest : List Session} (h : c.opened.Perm (s :: rest)) :
    c.owned = s.connections + (rest.map (·.connections)).sum := (h.map _).sum_eq

theorem ownedConnections_map_le (sessions : SortedMap String Lineage) {f : Lineage → Lineage}
    (hle : ∀ l, (f l).connections ≤ l.connections) :
    ownedConnections (sessions.map f) ≤ ownedConnections sessions := by
  unfold ownedConnections SortedMap.values SortedMap.map
  simp only [Lineage.foldr_add, List.map_map]
  exact List.sum_le_sum fun e _ => hle e.2

theorem connections_map_settle_le (c : Console) (l : Lineage) : (l.map fun s => s.settle fun k
    batchSize => c.stream k s.query batchSize).connections ≤ l.connections := by
  rw [Lineage.connections_eq, Lineage.connections_eq, Lineage.all_map, List.map_map]
  exact List.sum_le_sum fun s _ => Session.connections_settle_le s _

theorem accounted_replaceSessions (h : c.Accounted) {f : Lineage → Lineage}
    (hle : ∀ l, (f l).connections ≤ l.connections) :
    (c.replaceSessions (c.sessions.map f)).Accounted := by
  have ho := ownedConnections_map_le c.sessions hle
  have hn : (c.replaceSessions (c.sessions.map f)).owned = ownedConnections (c.sessions.map f) :=
    (ownedConnections_eq _).symm
  unfold Accounted at h ⊢
  rw [hn]
  rw [← ownedConnections_eq] at h
  simp only [replaceSessions, release]
  -- `ho` keeps the subtraction from being cut off at zero.
  omega

theorem accounted_closeAll (h : c.Accounted) : c.closeAll.Accounted := by
  refine accounted_replaceSessions h fun l => ?_
  unfold Lineage.retire
  split
  · next s hs => simp [Lineage.connections, hs, Session.connections_close]
  · exact Nat.le_refl _

theorem accounted_settle (h : c.Accounted) : c.settle.Accounted :=
  accounted_replaceSessions h c.connections_map_settle_le

theorem accounted_of_sessionMove (h : c.Accounted) (hs : ∀ s ∈ c.opened, s.Connected)
    (hm : c.SessionMove c') : c'.Accounted := by
  unfold Accounted at h ⊢
  cases hm with
  | opened id request r q hf hr hp =>
    have hn := owned_perm (opened_putSession hf (.new id r q ⟨request.target.database⟩))
    change c.connections + 1 = c.links.size + (c.putSession id _).owned
    rw [hn, h, Nat.add_right_comm, Nat.add_assoc]
    rfl
  | act hd s₀ s' hs₀ ha =>
    obtain ⟨rest, hold, hnew⟩ := opened_putHeld hs₀
    have he := Session.connections_acts (hs s₀ (hold.mem_iff.mpr (.head _))) ha
    have ho := owned_perm hold
    have hn := owned_perm (hnew s')
    rw [he, ← ho] at hn
    rw [hn]
    exact h
  | closeHeld hd s₀ hs₀ =>
    obtain ⟨rest, hold, hnew⟩ := opened_putHeld hs₀
    have ho := owned_perm hold
    have hn := owned_perm (hnew s₀.close)
    change c.connections - s₀.connections = c.links.size + (c.putHeld hd s₀.close).owned
    rw [hn, Session.connections_close]
    omega
  | close id s₀ hs₀ =>
    obtain ⟨rest, hold, hnew⟩ := opened_retire hs₀
    have ho := owned_perm hold
    have hn := owned_perm hnew
    change c.connections - s₀.connections =
      c.links.size + (c.putLineage id (c.lineage id).retire).owned
    rw [hn, Session.connections_close]
    omega
  | closeAll => exact accounted_closeAll h
  | settle => exact accounted_settle h

theorem accounted_of_outerMove (h : c.Accounted) (hm : c.OuterMove c') : c'.Accounted := by
  unfold Accounted at h ⊢
  cases hm with
  | change | hold => exact h
  | link name k hr =>
    change c.connections + 1 - (if c.links.contains name then 1 else 0) =
      (c.links.insert name k).size + c.owned
    have hi := SortedMap.size_insert c.links name k
    split
    · next hk =>
      have he := SortedMap.size_erase hk
      omega
    · next hk =>
      have hf : c.links.find? name = none := by simpa [SortedMap.contains] using hk
      rw [SortedMap.erase_of_find?_none hf] at hi
      omega
  | unlink name hk =>
    change c.connections - 1 = (c.links.erase name).size + c.owned
    have he := SortedMap.size_erase hk
    omega

theorem accounted_of_moves (h : c.Accounted) (hs : ∀ s ∈ c.opened, s.Connected)
    (hm : c.Moves c') : c'.Accounted := by
  cases hm with
  | stay => exact h
  | outer _ hm => exact accounted_of_outerMove h hm
  | sessions _ hm =>
    induction hm with
    | refl => exact h
    | tail hm₁ hm₂ ih =>
      have hs₁ := invariant_of_moves Session.connected_invariant hs (.sessions _ hm₁)
      exact accounted_of_sessionMove ih hs₁ hm₂

theorem accounted_run (catalog : Catalog) (pageSize : Nat) (steps : List Step) :
    ((Console.new catalog pageSize).run steps).Accounted := by
  have h := run_preserves (P := fun c => c.Accounted ∧ ∀ s ∈ c.opened, s.Connected)
    (c := Console.new catalog pageSize) (fun _ h => h) ?_ steps ⟨rfl, ?_⟩
  · exact h.1
  · intro c c' hc hm
    exact ⟨accounted_of_moves hc.1 hc.2 hm,
      invariant_of_moves Session.connected_invariant hc.2 hm⟩
  · rw [opened_new]
    exact fun _ hs => (List.not_mem_nil hs).elim

theorem owned_eq_countP (h : ∀ s ∈ c.opened, s.Connected) :
    c.owned = c.opened.countP (·.isLive) := by
  unfold owned
  generalize c.opened = l at h
  induction l with
  | nil => rfl
  | cons s rest ih =>
    have hs := (h s (.head _)).connections_eq
    have hr := ih fun t ht => h t (.tail _ ht)
    rw [List.map_cons, List.sum_cons, List.countP_cons, hr, hs, Nat.add_comm]

/-- However a console is used and whatever fails, the open connections are those that are used
directly and one for each session that has neither been closed nor come to a result. -/
theorem connections_eq_live (catalog : Catalog) (pageSize : Nat) (steps : List Step) :
    ((Console.new catalog pageSize).run steps).connections =
      ((Console.new catalog pageSize).run steps).links.size +
        ((Console.new catalog pageSize).run steps).opened.countP (·.isLive) := by
  rw [← owned_eq_countP (forall_opened_run Session.connected_invariant catalog pageSize steps)]
  exact accounted_run catalog pageSize steps

end Console

end DbConsole
