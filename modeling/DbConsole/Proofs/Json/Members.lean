import DbConsole.Json.Basic
import DbConsole.Proofs.Maps
import Mathlib.Data.List.Induction

namespace DbConsole

theorem lookup_cons_ite {κ υ : Type} [DecidableEq κ] (k : κ) (e : κ × υ) (l : List (κ × υ)) :
    (e :: l).lookup k = if k = e.1 then some e.2 else l.lookup k := by
  obtain ⟨a, v⟩ := e
  by_cases h : k = a
  · rw [if_pos h, List.lookup_cons, beq_iff_eq.mpr h]
  · rw [if_neg h, List.lookup_cons, beq_eq_false_iff_ne.mpr h]

theorem lookup_eq_none_of_not_mem {κ υ : Type} [DecidableEq κ] {l : List (κ × υ)} {k : κ}
    (h : k ∉ l.map (·.1)) : l.lookup k = none := by
  refine List.lookup_eq_none_iff.mpr fun e he => bne_iff_ne.mpr ?_
  rintro rfl
  exact h (List.mem_map_of_mem he)

theorem lookup_reverse {κ υ : Type} [DecidableEq κ] {l : List (κ × υ)} (h : (l.map (·.1)).Nodup)
    (k : κ) : l.reverse.lookup k = l.lookup k := by
  induction l with
  | nil => rfl
  | cons e l ih =>
    rw [List.map_cons, List.nodup_cons] at h
    rw [List.reverse_cons, List.lookup_append, ih h.2, lookup_cons_ite, lookup_cons_ite]
    by_cases hk : k = e.1
    · rw [if_pos hk, if_pos hk, hk, lookup_eq_none_of_not_mem h.1, Option.none_or]
    · rw [if_neg hk, if_neg hk, List.lookup_nil, Option.or_none]

namespace SortedMap

variable {κ υ : Type} [Ord κ] [Std.LawfulEqOrd κ]

theorem ofList_concat [Std.TransOrd κ] (l : List (κ × υ)) (e : κ × υ) :
    ofList (l ++ [e]) = (ofList l).insert e.1 e.2 := by simp [ofList]

theorem keys_nodup (m : SortedMap κ υ) : m.keys.Nodup :=
  List.pairwise_map.mpr (m.sorted.imp fun hlt he => by simp [he] at hlt)

variable [DecidableEq κ]

theorem find?_eq_lookup (m : SortedMap κ υ) (k : κ) : m.find? k = m.entries.lookup k := by
  unfold find?
  simp only [compare_beq_eq]
  generalize m.entries = l
  induction l with
  | nil => rfl
  | cons e rest ih =>
    rw [lookup_cons_ite, ← ih]
    by_cases h : k = e.1 <;> simp [h]

theorem find?_ofList [Std.TransOrd κ] (l : List (κ × υ)) (k : κ) :
    (ofList l).find? k = l.reverse.lookup k := by
  induction l using List.reverseRecOn with
  | nil => rfl
  | append_singleton l e ih =>
    rw [ofList_concat, find?_insert, ih, List.reverse_concat, lookup_cons_ite]

theorem ofList_entries [Std.TransOrd κ] (m : SortedMap κ υ) : ofList m.entries = m := by
  apply ext_find?
  intro k
  rw [find?_ofList, find?_eq_lookup, lookup_reverse m.keys_nodup]

end SortedMap

namespace Json

theorem ofMembers_eq (members : List (String × Json)) :
    ofMembers members = .object (SortedMap.ofList members).entries := by
  unfold ofMembers
  rw [object.injEq]
  induction members using List.reverseRecOn with
  | nil => rfl
  | append_singleton members m ih =>
    rw [List.foldl_append, ih, SortedMap.ofList_concat]
    rfl

theorem get?_ofMembers (members : List (String × Json)) (key : String) :
    (ofMembers members).get? key = members.reverse.lookup key := by
  rw [ofMembers_eq]
  exact (SortedMap.find?_eq_lookup _ key).symm.trans (SortedMap.find?_ofList members key)

theorem get?_ofMembers_map (keys : List String) (f : String → Json) (key : String) :
    (ofMembers (keys.map fun k => (k, f k))).get? key =
      if key ∈ keys then some (f key) else none := by
  have hmem : key ∈ keys ↔ key ∈ keys.reverse := List.mem_reverse.symm
  rw [get?_ofMembers, ← List.map_reverse]
  simp only [hmem]
  induction keys.reverse with
  | nil => rfl
  | cons k rest ih =>
    rw [List.map_cons, lookup_cons_ite, ih]
    by_cases h : key = k <;> simp [h]

end Json

end DbConsole
