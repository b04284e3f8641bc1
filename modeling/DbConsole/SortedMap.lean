namespace DbConsole

/-- A finite map whose entries stand in increasing key order. -/
structure SortedMap (κ υ : Type) [Ord κ] where
  entries : List (κ × υ)
  sorted : entries.Pairwise (fun a b => compare a.1 b.1 = .lt)

namespace SortedMap

section Definitions

variable {κ υ : Type} [Ord κ]

def empty : SortedMap κ υ := ⟨[], .nil⟩

instance : EmptyCollection (SortedMap κ υ) := ⟨empty⟩

instance : Inhabited (SortedMap κ υ) := ⟨empty⟩

instance [DecidableEq κ] [DecidableEq υ] : DecidableEq (SortedMap κ υ) := fun a b =>
  decidable_of_iff (a.entries = b.entries)
    ⟨fun h => by cases a; cases b; cases h; rfl, fun h => h ▸ rfl⟩

def find? (m : SortedMap κ υ) (k : κ) : Option υ :=
  (m.entries.find? fun e => compare k e.1 == .eq).map (·.2)

def contains (m : SortedMap κ υ) (k : κ) : Bool := (m.find? k).isSome

def size (m : SortedMap κ υ) : Nat := m.entries.length

def keys (m : SortedMap κ υ) : List κ := m.entries.map (·.1)

def values (m : SortedMap κ υ) : List υ := m.entries.map (·.2)

def insertEntry (k : κ) (v : υ) : List (κ × υ) → List (κ × υ)
  | [] => [(k, v)]
  | e :: rest =>
    match compare k e.1 with
    | .lt => (k, v) :: e :: rest
    | .eq => (k, v) :: rest
    | .gt => e :: insertEntry k v rest

def erase (m : SortedMap κ υ) (k : κ) : SortedMap κ υ :=
  ⟨m.entries.filter fun e => compare k e.1 != .eq, m.sorted.filter _⟩

def map {ω : Type} (f : υ → ω) (m : SortedMap κ υ) : SortedMap κ ω :=
  ⟨m.entries.map fun e => (e.1, f e.2), List.pairwise_map.2 m.sorted⟩

def modify (m : SortedMap κ υ) (k : κ) (f : υ → υ) : SortedMap κ υ :=
  ⟨m.entries.map fun e => (e.1, if compare k e.1 == .eq then f e.2 else e.2),
    List.pairwise_map.2 m.sorted⟩

theorem key_mem_insertEntry {k : κ} {v : υ} {a : κ × υ} {l : List (κ × υ)}
    (h : a ∈ insertEntry k v l) : a = (k, v) ∨ a ∈ l := by
  induction l with
  | nil => simpa [insertEntry] using h
  | cons e rest ih =>
    rw [insertEntry] at h
    split at h <;> grind

variable [Std.TransOrd κ] [Std.LawfulEqOrd κ]

theorem sorted_insertEntry (k : κ) (v : υ) {l : List (κ × υ)}
    (h : l.Pairwise (fun a b => compare a.1 b.1 = .lt)) :
    (insertEntry k v l).Pairwise (fun a b => compare a.1 b.1 = .lt) := by
  induction l with
  | nil => simp [insertEntry]
  | cons e rest ih =>
    have hrest := (List.pairwise_cons.1 h).1
    rw [insertEntry]
    split
    · next hlt =>
      refine h.cons fun a ha => ?_
      rcases List.mem_cons.1 ha with rfl | ha
      · exact hlt
      · exact Std.TransCmp.lt_trans hlt (hrest a ha)
    · next heq =>
      have : k = e.1 := Std.LawfulEqCmp.eq_of_compare heq
      subst this
      exact h.of_cons.cons hrest
    · next hgt =>
      refine (ih h.of_cons).cons fun a ha => ?_
      rcases key_mem_insertEntry ha with rfl | ha
      · exact Std.OrientedCmp.lt_of_gt hgt
      · exact hrest a ha

def insert (m : SortedMap κ υ) (k : κ) (v : υ) : SortedMap κ υ :=
  ⟨insertEntry k v m.entries, sorted_insertEntry k v m.sorted⟩

def ofList (l : List (κ × υ)) : SortedMap κ υ :=
  l.foldl (fun m e => m.insert e.1 e.2) empty

end Definitions

section Lemmas

variable {κ υ : Type} [Ord κ]

@[ext] theorem ext_entries {a b : SortedMap κ υ} (h : a.entries = b.entries) : a = b := by
  cases a; cases b; cases h; rfl

@[simp] theorem find?_empty (k : κ) : (empty : SortedMap κ υ).find? k = none := rfl

theorem find?_map {ω : Type} (f : υ → ω) (m : SortedMap κ υ) (k : κ) :
    (m.map f).find? k = (m.find? k).map f := by
  simp only [find?, map, List.find?_map, Option.map_map]
  rfl

variable [Std.LawfulEqOrd κ] [DecidableEq κ]

theorem compare_beq_eq (a b : κ) : (compare a b == .eq) = decide (a = b) := by
  rw [Bool.eq_iff_iff]
  simp [Std.LawfulEqCmp.compare_eq_iff_eq]

theorem find?_erase (m : SortedMap κ υ) (k a : κ) :
    (m.erase k).find? a = if a = k then none else m.find? a := by
  obtain ⟨l, hl⟩ := m
  simp only [find?, erase, compare_beq_eq, bne]
  clear hl
  induction l with
  | nil => simp
  | cons e rest ih =>
    by_cases hk : k = e.1 <;> by_cases ha : a = e.1 <;> grind

theorem find?_modify (m : SortedMap κ υ) (k a : κ) (f : υ → υ) :
    (m.modify k f).find? a = if a = k then (m.find? a).map f else m.find? a := by
  obtain ⟨l, hl⟩ := m
  simp only [find?, modify, compare_beq_eq]
  clear hl
  induction l with
  | nil => simp
  | cons e rest ih =>
    by_cases ha : a = e.1
    · by_cases hk : a = k <;> simp_all [eq_comm]
    · simpa [ha] using ih

theorem find?_eq_some_iff {m : SortedMap κ υ} {k : κ} {v : υ} :
    m.find? k = some v ↔ (k, v) ∈ m.entries := by
  obtain ⟨l, hl⟩ := m
  simp only [find?, compare_beq_eq]
  induction l with
  | nil => simp
  | cons e rest ih =>
    have hrest := (List.pairwise_cons.1 hl).1
    by_cases hk : k = e.1
    · subst hk
      have : (e.1, v) ∉ rest := fun h => by simpa using hrest _ h
      grind
    · have : (k, v) ≠ e := fun h => hk (by rw [← h])
      simpa [hk, this] using ih hl.of_cons

variable [Std.TransOrd κ]

theorem find?_insert (m : SortedMap κ υ) (k a : κ) (v : υ) :
    (m.insert k v).find? a = if a = k then some v else m.find? a := by
  obtain ⟨l, hl⟩ := m
  simp only [find?, insert, compare_beq_eq]
  clear hl
  induction l with
  | nil => by_cases h : a = k <;> simp [insertEntry, h]
  | cons e rest ih =>
    rw [insertEntry]
    split
    · by_cases h : a = k <;> simp [h]
    · next heq =>
      have : k = e.1 := Std.LawfulEqCmp.eq_of_compare heq
      by_cases h : a = k <;> simp_all
    · next hgt =>
      have hne : k ≠ e.1 := fun h => by simp [h] at hgt
      by_cases h : a = e.1
      · simp [h, Ne.symm hne]
      · simpa [h] using ih

/-- Maps with the same look-ups are equal. -/
theorem ext_find? {a b : SortedMap κ υ} (h : ∀ k, a.find? k = b.find? k) : a = b := by
  have hmem : ∀ e, e ∈ a.entries ↔ e ∈ b.entries := fun e => by
    rw [← find?_eq_some_iff (m := a), ← find?_eq_some_iff (m := b), h]
  obtain ⟨l, hl⟩ := a
  obtain ⟨r, hr⟩ := b
  congr
  clear h
  induction l generalizing r with
  | nil =>
    cases r with
    | nil => rfl
    | cons f r => exact absurd ((hmem f).2 (.head _)) (by simp)
  | cons e l ih =>
    cases r with
    | nil => exact absurd ((hmem e).1 (.head _)) (by simp)
    | cons f r =>
      have hel := (List.pairwise_cons.1 hl).1
      have hfr := (List.pairwise_cons.1 hr).1
      have hef : e = f := by
        rcases List.mem_cons.1 ((hmem e).1 (.head _)) with h | h
        · exact h
        · rcases List.mem_cons.1 ((hmem f).2 (.head _)) with h' | h'
          · exact h'.symm
          · exact absurd (Std.TransCmp.lt_trans (hfr _ h) (hel _ h')) (by simp)
      subst hef
      congr
      refine ih hl.of_cons r hr.of_cons fun x => ?_
      have hx := hmem x
      simp only [List.mem_cons] at hx
      constructor
      · intro hxl
        rcases hx.1 (.inr hxl) with rfl | h
        · exact absurd (hel _ hxl) (by simp)
        · exact h
      · intro hxr
        rcases hx.2 (.inr hxr) with rfl | h
        · exact absurd (hfr _ hxr) (by simp)
        · exact h

end Lemmas

end SortedMap

end DbConsole
