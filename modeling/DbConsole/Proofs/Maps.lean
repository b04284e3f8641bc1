import DbConsole.SortedMap
import Mathlib.Data.List.Perm.Subperm

namespace DbConsole.SortedMap

variable {κ υ α : Type} [Ord κ]

def gather (m : SortedMap κ υ) (f : κ × υ → List α) : List α := m.entries.flatMap f

theorem mem_gather {m : SortedMap κ υ} {f : κ × υ → List α} {a : α} :
    a ∈ m.gather f ↔ ∃ e ∈ m.entries, a ∈ f e := List.mem_flatMap

variable [Std.LawfulEqOrd κ]

theorem entries_nodup (m : SortedMap κ υ) : m.entries.Nodup := by
  refine m.sorted.imp ?_
  rintro a b h rfl
  simp at h

variable [DecidableEq κ]

theorem mem_keys {m : SortedMap κ υ} {k : κ} : k ∈ m.keys ↔ ∃ v, m.find? k = some v := by
  simp only [keys, find?_eq_some_iff, List.mem_map, Prod.exists, exists_and_right,
    exists_eq_right]

theorem find?_eq_none {m : SortedMap κ υ} {k : κ} : m.find? k = none ↔ k ∉ m.keys := by
  simp [mem_keys, Option.eq_none_iff_forall_ne_some]

theorem mem_values {m : SortedMap κ υ} {v : υ} : v ∈ m.values ↔ ∃ k, m.find? k = some v := by
  simp only [values, find?_eq_some_iff, List.mem_map, Prod.exists, exists_eq_right]

theorem erase_of_find?_none {m : SortedMap κ υ} {k : κ} (h : m.find? k = none) :
    m.erase k = m := by
  apply ext_entries
  refine List.filter_eq_self.mpr ?_
  intro e he
  by_contra hne
  have hk : k = e.1 := by simpa using hne
  have hf : m.find? e.1 = some e.2 := find?_eq_some_iff.mpr he
  rw [← hk, h] at hf
  cases hf

theorem entries_perm {m : SortedMap κ υ} {k : κ} {v : υ} (h : m.find? k = some v) :
    m.entries.Perm ((k, v) :: (m.erase k).entries) := by
  have hn : ((k, v) :: (m.erase k).entries).Nodup := by
    refine List.nodup_cons.mpr ⟨?_, entries_nodup _⟩
    rw [← find?_eq_some_iff, find?_erase, if_pos rfl]
    simp
  refine (List.perm_ext_iff_of_nodup (entries_nodup m) hn).mpr ?_
  rintro ⟨a, w⟩
  rw [List.mem_cons, ← find?_eq_some_iff, ← find?_eq_some_iff, find?_erase]
  by_cases ha : a = k
  · subst a
    simp [h, eq_comm]
  · simp [ha]

theorem gather_perm {m : SortedMap κ υ} {k : κ} {v : υ} (f : κ × υ → List α)
    (h : m.find? k = some v) : (m.gather f).Perm (f (k, v) ++ (m.erase k).gather f) :=
  (entries_perm h).flatMap_right f

theorem size_erase {m : SortedMap κ υ} {k : κ} (h : m.contains k) :
    m.size = (m.erase k).size + 1 := by
  obtain ⟨v, hv⟩ := Option.isSome_iff_exists.mp h
  exact (entries_perm hv).length_eq

variable [Std.TransOrd κ]

theorem entries_insert_perm (m : SortedMap κ υ) (k : κ) (v : υ) :
    (m.insert k v).entries.Perm ((k, v) :: (m.erase k).entries) := by
  have hf : (m.insert k v).find? k = some v := by simp [find?_insert]
  have he : (m.insert k v).erase k = m.erase k := by
    apply ext_find?
    intro a
    by_cases ha : a = k <;> simp [find?_erase, find?_insert, ha]
  simpa only [he] using entries_perm hf

theorem insert_self {m : SortedMap κ υ} {k : κ} {v : υ} (h : m.find? k = some v) :
    m.insert k v = m := by
  apply ext_find?
  intro a
  by_cases ha : a = k <;> simp [find?_insert, ha, h]

theorem eq_insert {m m' : SortedMap κ υ} {k : κ} {v : υ} (h : m'.find? k = some v)
    (ho : ∀ a, a ≠ k → m'.find? a = m.find? a) : m' = m.insert k v := by
  apply ext_find?
  intro a
  by_cases ha : a = k
  · simp [find?_insert, ha, h]
  · simp [find?_insert, ha, ho a ha]

theorem modify_modify (m : SortedMap κ υ) (k : κ) (f g : υ → υ) :
    (m.modify k f).modify k g = m.modify k fun v => g (f v) := by
  apply ext_find?
  intro a
  by_cases ha : a = k <;> simp [find?_modify, ha, Function.comp_def]

theorem modify_eq_insert {m : SortedMap κ υ} {k : κ} {v : υ} (f : υ → υ)
    (h : m.find? k = some v) : m.modify k f = m.insert k (f v) := by
  apply ext_find?
  intro a
  by_cases ha : a = k <;> simp [find?_modify, find?_insert, ha, h]

theorem insert_insert (m : SortedMap κ υ) (k : κ) (v w : υ) :
    (m.insert k v).insert k w = m.insert k w := by
  apply ext_find?
  intro a
  by_cases ha : a = k <;> simp [find?_insert, ha]

theorem map_insert_of_eq {ω : Type} {m : SortedMap κ υ} {k : κ} {v w : υ} {f : υ → ω}
    (h : m.find? k = some v) (hf : f w = f v) : (m.insert k w).map f = m.map f := by
  apply ext_find?
  intro a
  rw [find?_map, find?_map, find?_insert]
  split
  · next ha => rw [ha, h, Option.map_some, Option.map_some, hf]
  · rfl

theorem gather_insert_perm (m : SortedMap κ υ) (k : κ) (v : υ) (f : κ × υ → List α) :
    ((m.insert k v).gather f).Perm (f (k, v) ++ (m.erase k).gather f) :=
  (entries_insert_perm m k v).flatMap_right f

theorem gather_insert_subperm {m : SortedMap κ υ} {k : κ} {v : υ} {f : κ × υ → List α}
    (h : ∀ w, m.find? k = some w → (f (k, v)).Subperm (f (k, w)))
    (hn : m.find? k = none → f (k, v) = []) : ((m.insert k v).gather f).Subperm (m.gather f) := by
  refine (gather_insert_perm m k v f).subperm.trans ?_
  cases hf : m.find? k with
  | none =>
    rw [erase_of_find?_none hf, hn hf]
    exact List.Subperm.refl _
  | some w => exact ((h w hf).append (List.Subperm.refl _)).trans (gather_perm f hf).symm.subperm

theorem keys_insert_perm (m : SortedMap κ υ) (k : κ) (v : υ) :
    (m.insert k v).keys.Perm (k :: (m.erase k).keys) := (entries_insert_perm m k v).map Prod.fst

theorem keys_insert_perm_of_mem {m : SortedMap κ υ} {k : κ} {w : υ} (h : m.find? k = some w)
    (v : υ) : (m.insert k v).keys.Perm m.keys :=
  (keys_insert_perm m k v).trans ((entries_perm h).map Prod.fst).symm

theorem size_insert (m : SortedMap κ υ) (k : κ) (v : υ) :
    (m.insert k v).size = (m.erase k).size + 1 := (entries_insert_perm m k v).length_eq

end DbConsole.SortedMap
