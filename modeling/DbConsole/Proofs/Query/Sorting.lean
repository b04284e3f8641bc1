import Mathlib.Data.List.Basic

namespace DbConsole

variable {α : Type}

/-- `sorted` has the elements of `l`, none before a smaller one, and those that are alike in the
order of `l`. -/
structure StableSort (smaller : α → α → Prop) (alike : α → α → Bool) (l sorted : List α) :
    Prop where
  perm : sorted.Perm l
  ordered : sorted.Pairwise fun a b => ¬smaller b a
  stable : ∀ a, sorted.filter (alike a) = l.filter (alike a)

theorem StableSort.congr {smaller smaller' : α → α → Prop} {alike alike' : α → α → Bool}
    {l sorted : List α} (h : StableSort smaller alike l sorted)
    (hsmaller : ∀ a ∈ l, ∀ b ∈ l, smaller' a b → smaller a b)
    (halike : ∀ a ∈ l, ∀ b ∈ l, alike a b = alike' a b)
    (hsame : ∀ a b, alike' a b → alike' a = alike' b) :
    StableSort smaller' alike' l sorted where
  perm := h.perm
  ordered := h.ordered.imp_of_mem fun {a b} ha hb hab hba =>
    hab (hsmaller b (h.perm.subset hb) a (h.perm.subset ha) hba)
  stable a := by
    by_cases ha : ∃ b ∈ l, alike' a b
    · obtain ⟨b, hb, hab⟩ := ha
      rw [hsame a b hab]
      calc sorted.filter (alike' b)
        _ = sorted.filter (alike b) :=
          List.filter_congr fun c hc => (halike b hb c (h.perm.subset hc)).symm
        _ = l.filter (alike b) := h.stable b
        _ = l.filter (alike' b) := List.filter_congr fun c hc => halike b hb c hc
    · have hnone : ∀ b ∈ l, ¬alike' a b := fun b hb hab => ha ⟨b, hb, hab⟩
      rw [List.filter_eq_nil_iff.mpr hnone,
        List.filter_eq_nil_iff.mpr fun b hb => hnone b (h.perm.subset hb)]

/-- A stable sort by a comparison; there is one such list only. -/
def SortedBy (cmp : α → α → Ordering) (l sorted : List α) : Prop :=
  StableSort (fun a b => cmp a b = .lt) (fun a b => cmp a b = .eq) l sorted

/-- Any two elements can be compared, alike in both directions, and transitively. -/
structure TotalPreorder (cmp : α → α → Ordering) : Prop where
  refl : ∀ a, cmp a a = .eq
  swap : ∀ a b, cmp b a = (cmp a b).swap
  total : ∀ a b, (cmp a b).isLE ∨ (cmp b a).isLE
  trans : ∀ a b c, (cmp a b).isLE → (cmp b c).isLE → (cmp a c).isLE

section Comparisons

variable {cmp : α → α → Ordering} [Std.OrientedCmp cmp] {a b : α}

theorem compare_eq_of_not_lt (hab : cmp a b ≠ .lt) (hba : cmp b a ≠ .lt) : cmp a b = .eq := by
  have hswap : cmp a b = (cmp b a).swap := Std.OrientedCmp.eq_swap
  cases hc : cmp b a with
  | lt => exact absurd hc hba
  | eq => rw [hswap, hc, Ordering.swap_eq]
  | gt =>
    rw [hc] at hswap
    exact absurd hswap hab

theorem not_lt_of_isLE (h : (cmp a b).isLE) : cmp b a ≠ .lt := by
  have hswap : cmp a b = (cmp b a).swap := Std.OrientedCmp.eq_swap
  intro hlt
  simp [hswap, hlt] at h

theorem isLE_or_isLE (cmp : α → α → Ordering) [Std.OrientedCmp cmp] (a b : α) :
    (cmp a b).isLE ∨ (cmp b a).isLE := by
  have hswap : cmp a b = (cmp b a).swap := Std.OrientedCmp.eq_swap
  cases hc : cmp b a <;> simp [hswap, hc]

theorem TotalPreorder.of_transCmp (cmp : α → α → Ordering) [Std.TransCmp cmp] :
    TotalPreorder cmp where
  refl _ := Std.ReflCmp.compare_self
  swap _ _ := Std.OrientedCmp.eq_swap
  total := isLE_or_isLE cmp
  trans _ _ _ := Std.TransCmp.isLE_trans

theorem mem_of_filter_eq {s s' : List α}
    (h : ∀ a, s.filter (fun b => cmp a b = .eq) = s'.filter fun b => cmp a b = .eq)
    (ha : a ∈ s) : a ∈ s' := by
  have hself : a ∈ s.filter fun b => cmp a b = .eq :=
    List.mem_filter.mpr ⟨ha, decide_eq_true Std.ReflCmp.compare_self⟩
  rw [h] at hself
  exact List.mem_of_mem_filter hself

end Comparisons

namespace SortedBy

variable {cmp : α → α → Ordering} {l s s' : List α}

theorem eq_of_filter [Std.OrientedCmp cmp]
    (hs : s.Pairwise fun a b => cmp b a ≠ .lt) (hs' : s'.Pairwise fun a b => cmp b a ≠ .lt)
    (h : ∀ a, s.filter (fun b => cmp a b = .eq) = s'.filter fun b => cmp a b = .eq) : s = s' := by
  induction s generalizing s' with
  | nil =>
    refine (List.eq_nil_iff_forall_not_mem.mpr fun a ha => ?_).symm
    exact List.not_mem_nil (mem_of_filter_eq (fun a => (h a).symm) ha)
  | cons a rest ih =>
    cases s' with
    | nil => exact absurd (mem_of_filter_eq h (.head _)) List.not_mem_nil
    | cons b rest' =>
      rw [List.pairwise_cons] at hs hs'
      have hself : ∀ c, cmp c c = .eq := fun _ => Std.ReflCmp.compare_self
      have hab : cmp a b ≠ .lt := by
        obtain rfl | ha := List.mem_cons.mp (mem_of_filter_eq h (.head _))
        · simp [hself]
        · exact hs'.1 a ha
      have hba : cmp b a ≠ .lt := by
        obtain rfl | hb := List.mem_cons.mp (mem_of_filter_eq (fun a => (h a).symm) (.head _))
        · simp [hself]
        · exact hs.1 b hb
      -- The first elements compare equal, and so each is the first of those alike to `a`.
      have hhead := h a
      rw [List.filter_cons_of_pos (by simp [hself]),
        List.filter_cons_of_pos (by simp [compare_eq_of_not_lt hab hba])] at hhead
      obtain ⟨rfl, -⟩ := List.cons.inj hhead
      congr 1
      refine ih hs.2 hs'.2 fun c => ?_
      have hc := h c
      by_cases hca : cmp c a = .eq
      · rw [List.filter_cons_of_pos (by simp [hca]), List.filter_cons_of_pos (by simp [hca])] at hc
        exact (List.cons.inj hc).2
      · rwa [List.filter_cons_of_neg (by simp [hca]),
          List.filter_cons_of_neg (by simp [hca])] at hc

/-- A list is stably sorted in one way. -/
theorem unique [Std.OrientedCmp cmp] (h : SortedBy cmp l s) (h' : SortedBy cmp l s') : s = s' :=
  eq_of_filter h.ordered h'.ordered fun a => (h.stable a).trans (h'.stable a).symm

theorem mergeSort [Std.TransCmp cmp] (l : List α) :
    SortedBy cmp l (l.mergeSort fun a b => (cmp a b).isLE) := by
  have htrans : ∀ a b c, (cmp a b).isLE = true → (cmp b c).isLE = true → (cmp a c).isLE = true :=
    fun _ _ _ => Std.TransCmp.isLE_trans
  have htotal : ∀ a b, ((cmp a b).isLE || (cmp b a).isLE) = true :=
    fun a b => (Bool.or_eq_true _ _).mpr (isLE_or_isLE cmp a b)
  have hperm := l.mergeSort_perm fun a b => (cmp a b).isLE
  refine ⟨hperm, (List.pairwise_mergeSort htrans htotal l).imp not_lt_of_isLE, fun a => ?_⟩
  -- The elements alike to `a` are in order as they stand, so sorting leaves them as they stand.
  have halike : (l.filter fun b => cmp a b = .eq).Pairwise fun b c => (cmp b c).isLE := by
    refine List.Pairwise.imp_of_mem (R := fun _ _ => True) ?_ (List.pairwise_of_forall (by simp))
    intro b c hb hc _
    have hb : cmp a b = .eq := of_decide_eq_true (List.mem_filter.mp hb).2
    have hc : cmp a c = .eq := of_decide_eq_true (List.mem_filter.mp hc).2
    rw [Std.OrientedCmp.eq_comm] at hb
    rw [Std.TransCmp.eq_trans hb hc]
    rfl
  have hsub := (List.sublist_mergeSort htrans htotal halike List.filter_sublist).filter
    fun b => cmp a b = .eq
  simp only [List.filter_filter, Bool.and_self] at hsub
  exact (hsub.eq_of_length (hperm.filter _).length_eq.symm).symm

theorem filter (h : SortedBy cmp l s) (p : α → Bool) : SortedBy cmp (l.filter p) (s.filter p) where
  perm := h.perm.filter p
  ordered := h.ordered.sublist List.filter_sublist
  stable a := by rw [List.filter_comm, List.filter_comm _ p l, h.stable a]

theorem reverse_alike [Std.TransCmp cmp] (hne : l.Pairwise fun a b => cmp a b ≠ .eq) (a : α) :
    (l.filter fun b => cmp b a = .eq).reverse = l.filter fun b => cmp b a = .eq := by
  have hpairwise := hne.sublist (List.filter_sublist (p := fun b => cmp b a = .eq))
  have halike : ∀ b ∈ l.filter (fun b => cmp b a = .eq), cmp b a = .eq :=
    fun b hb => of_decide_eq_true (List.mem_filter.mp hb).2
  generalize l.filter (fun b => cmp b a = .eq) = alike at *
  cases alike with
  | nil => rfl
  | cons b rest =>
    cases rest with
    | nil => rfl
    | cons c rest =>
      have hb := halike b (.head _)
      have hc := halike c (.tail _ (.head _))
      rw [Std.OrientedCmp.eq_comm] at hc
      exact absurd (Std.TransCmp.eq_trans hb hc) ((List.pairwise_cons.mp hpairwise).1 c (.head _))

theorem reverse [Std.TransCmp cmp] (h : SortedBy cmp l s)
    (hne : l.Pairwise fun a b => cmp a b ≠ .eq) :
    SortedBy (fun a b => cmp b a) l s.reverse where
  perm := (List.reverse_perm s).trans h.perm
  ordered := List.pairwise_reverse.mpr h.ordered
  stable a := by
    have hstable := h.stable a
    simp only [Std.OrientedCmp.eq_comm (a := a)] at hstable
    rw [List.filter_reverse, hstable, reverse_alike hne]

end SortedBy

end DbConsole
