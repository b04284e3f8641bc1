import DbConsole.View.Lineage
import Mathlib.Algebra.BigOperators.Group.List.Basic
import Mathlib.Algebra.Ring.Nat

namespace DbConsole.Lineage

variable {l : Lineage} {i j : Nat} {s s' : Session}

def all (l : Lineage) : List Session := l.retired ++ l.current.toList

theorem get?_eq (l : Lineage) (i : Nat) : l.get? i = l.all[i]? := by
  unfold get? all
  split
  · next h => rw [List.getElem?_append_left h]
  · next h =>
    rw [List.getElem?_append_right (Nat.le_of_not_lt h)]
    split
    · next he =>
      subst he
      cases l.current <;> simp
    · next hne =>
      have hlt : l.retired.length < i := Nat.lt_of_le_of_ne (Nat.le_of_not_lt h) (Ne.symm hne)
      have hsub : 1 ≤ i - l.retired.length := Nat.sub_pos_of_lt hlt
      symm
      rw [List.getElem?_eq_none_iff]
      cases l.current with
      | none => simp
      | some s => simpa using hsub

theorem all_set (h : l.get? i = some s) (s' : Session) : (l.set i s').all = l.all.set i s' := by
  unfold get? at h
  unfold set all
  split
  · next hi => rw [List.set_append_left _ _ hi]
  · next hi =>
    rw [if_neg hi] at h
    split at h
    · next he =>
      subst he
      simp [h]
    · cases h

theorem set_self (h : l.get? i = some s) : l.set i s = l := by
  unfold get? at h
  unfold set
  split
  · next hi =>
    rw [if_pos hi] at h
    obtain ⟨_, rfl⟩ := List.getElem?_eq_some_iff.mp h
    simp
  · next hi =>
    rw [if_neg hi] at h
    split at h
    · next he =>
      rw [if_pos ⟨he, Option.isSome_of_mem h⟩, ← h]
    · cases h

theorem all_register (h : l.current = none) (s : Session) : (l.register s).all = l.all ++ [s] := by
  simp [all, register, h]

theorem register_eq_set (h : l.current = some s) (s' : Session) :
    l.register s' = l.set l.retired.length s' := by
  simp [register, set, h]

theorem get?_current (h : l.current = some s) : l.get? l.retired.length = some s := by
  simp [get?, h]

theorem all_retire (h : l.current = some s) :
    l.retire.all = l.all.set l.retired.length s.close := by
  simp [all, retire, h]

theorem retire_of_none (h : l.current = none) : l.retire = l := by
  simp [retire, h]

theorem all_map (f : Session → Session) (l : Lineage) : (l.map f).all = l.all.map f := by
  cases h : l.current <;> simp [all, map, h]

theorem map_self {f : Session → Session} (h : ∀ s ∈ l.all, f s = s) : l.map f = l := by
  obtain ⟨retired, current⟩ := l
  have hretired : ∀ s ∈ retired, f s = s := fun s hs => h s (List.mem_append_left _ hs)
  cases current with
  | none => simp [map, List.map_congr_left hretired]
  | some s =>
    have hs : f s = s := h s (List.mem_append_right _ (.head _))
    simp [map, List.map_congr_left hretired, hs]

theorem get?_map (l : Lineage) (f : Session → Session) (i : Nat) :
    (l.map f).get? i = (l.get? i).map f := by
  rw [get?_eq, all_map, List.getElem?_map, ← get?_eq]

theorem map_set (l : Lineage) (i : Nat) (s : Session) (f : Session → Session) :
    (l.set i s).map f = (l.map f).set i (f s) := by
  by_cases hi : i < l.retired.length
  · simp [set, map, hi]
  · by_cases hc : i = l.retired.length ∧ l.current.isSome = true
    · simp [set, map, hc]
    · simp [set, map, hi, hc]

theorem foldr_add {α : Type} (f : α → Nat) (l : List α) :
    l.foldr (fun a n => f a + n) 0 = (l.map f).sum := by
  rw [List.sum_eq_foldr, List.foldr_map]

theorem connections_eq (l : Lineage) : l.connections = (l.all.map (·.connections)).sum := by
  unfold connections all
  rw [foldr_add]
  cases l.current <;> simp

/-- How many sessions are registered no more, and whether one is. -/
def standing (l : Lineage) : Nat × Bool := (l.retired.length, l.current.isSome)

theorem standing_set (l : Lineage) (i : Nat) (s : Session) : (l.set i s).standing = l.standing := by
  unfold set standing
  split
  · rw [List.length_set]
  · split
    · next h => simp [h.2]
    · rfl

theorem standing_map (l : Lineage) (f : Session → Session) : (l.map f).standing = l.standing := by
  simp [map, standing]

theorem standing_retire (l : Lineage) :
    l.retire.standing = (l.standing.1 + l.standing.2.toNat, false) := by
  unfold retire standing
  cases h : l.current <;> simp [h]

end DbConsole.Lineage
