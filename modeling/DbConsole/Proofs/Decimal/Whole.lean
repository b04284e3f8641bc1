import DbConsole.Decimal.Binary64
import Mathlib.Data.Int.Order.Basic
import Mathlib.Order.Compare

namespace DbConsole

section RoundedQuotient

variable {num num' den : Nat}

theorem roundedQuotient_mul (q : Nat) (hd : 0 < den) : roundedQuotient (q * den) den = q := by
  unfold roundedQuotient
  simp only [Nat.mul_div_cancel q hd, Nat.mul_mod_left]
  rw [if_neg (by omega)]

theorem roundedQuotient_mono (h : num ≤ num') :
    roundedQuotient num den ≤ roundedQuotient num' den := by
  have hq : num / den ≤ num' / den := Nat.div_le_div_right h
  have hr := Nat.div_add_mod num den
  have hr' := Nat.div_add_mod num' den
  unfold roundedQuotient
  dsimp only
  obtain hlt | heq := Nat.lt_or_eq_of_le hq
  · split <;> split <;> omega
  · -- The whole parts are the same, so that the remainders are in order.
    rw [← heq] at hr' ⊢
    split <;> split <;> omega

theorem roundedQuotient_near (num : Nat) (hd : 0 < den) :
    2 * (roundedQuotient num den * den) ≤ 2 * num + den ∧
      2 * num ≤ 2 * (roundedQuotient num den * den) + den := by
  have hr := Nat.div_add_mod num den
  have hlt := Nat.mod_lt num hd
  unfold roundedQuotient
  dsimp only
  rw [Nat.mul_comm] at hr
  split
  · rw [Nat.add_one_mul (num / den)]
    omega
  · omega

end RoundedQuotient

section Magnitudes

variable {m n : Nat}

/-- How many units the magnitude nearest to a whole number has above its exponent's step. -/
def wholeUnits (n : Nat) : Nat :=
  roundedQuotient (n * Nat.pow 2 (52 - n.log2)) (Nat.pow 2 (n.log2 - 52))

theorem binaryExponent_one (hn : n ≠ 0) : binaryExponent n 1 = n.log2 := by
  have hle : 2 ^ n.log2 ≤ n := Nat.log2_self_le hn
  have hlog : Nat.log2 1 = 0 := by decide
  unfold binaryExponent
  simp only [hlog]
  rw [if_neg]
  · simp
  · have h0 : (-((n.log2 : Int) - (0 : Nat))).toNat = 0 := by omega
    have h1 : ((n.log2 : Int) - (0 : Nat)).toNat = n.log2 := by omega
    rw [h0, h1]
    simpa using hle

theorem nearestMagnitude_one (hn : n ≠ 0) :
    nearestMagnitude n 1 =
      min ((n.log2 + 1022) * Nat.pow 2 52 + wholeUnits n) infiniteMagnitude := by
  unfold nearestMagnitude wholeUnits
  rw [if_neg hn, binaryExponent_one hn]
  have hmax : max (n.log2 : Int) (-1022) = n.log2 := by omega
  have hup : (52 - (n.log2 : Int)).toNat = 52 - n.log2 := by omega
  have hdown : (-(52 - (n.log2 : Int))).toNat = n.log2 - 52 := by omega
  have hstep : ((n.log2 : Int) + 1022).toNat = n.log2 + 1022 := by omega
  simp only [hmax, hup, hdown, hstep, Nat.one_mul]

theorem scaled_bounds (hn : n ≠ 0) :
    Nat.pow 2 52 * Nat.pow 2 (n.log2 - 52) ≤ n * Nat.pow 2 (52 - n.log2) ∧
      n * Nat.pow 2 (52 - n.log2) < Nat.pow 2 53 * Nat.pow 2 (n.log2 - 52) := by
  have hle : 2 ^ n.log2 ≤ n := Nat.log2_self_le hn
  have hlt : n < 2 ^ (n.log2 + 1) := Nat.lt_log2_self
  simp only [Nat.pow_eq, ← Nat.pow_add]
  obtain hs | hl := Nat.le_total n.log2 52
  · have h52 : 52 + (n.log2 - 52) = n.log2 + (52 - n.log2) := by omega
    have h53 : 53 + (n.log2 - 52) = n.log2 + 1 + (52 - n.log2) := by omega
    rw [h52, h53, Nat.pow_add, Nat.pow_add 2 (n.log2 + 1)]
    exact ⟨Nat.mul_le_mul_right _ hle, Nat.mul_lt_mul_of_pos_right hlt (Nat.two_pow_pos _)⟩
  · have h52 : 52 + (n.log2 - 52) = n.log2 := by omega
    have h53 : 53 + (n.log2 - 52) = n.log2 + 1 := by omega
    have h0 : 52 - n.log2 = 0 := by omega
    rw [h52, h53, h0, Nat.pow_zero, Nat.mul_one]
    exact ⟨hle, hlt⟩

theorem wholeUnits_bounds (hn : n ≠ 0) :
    Nat.pow 2 52 ≤ wholeUnits n ∧ wholeUnits n ≤ Nat.pow 2 53 := by
  have hd : 0 < Nat.pow 2 (n.log2 - 52) := Nat.two_pow_pos _
  obtain ⟨hlow, hhigh⟩ := scaled_bounds hn
  constructor
  · rw [← roundedQuotient_mul (Nat.pow 2 52) hd]
    exact roundedQuotient_mono hlow
  · rw [← roundedQuotient_mul (Nat.pow 2 53) hd]
    exact roundedQuotient_mono (Nat.le_of_lt hhigh)

theorem log2_mono (hm : m ≠ 0) (h : m ≤ n) : m.log2 ≤ n.log2 :=
  (Nat.le_log2 (by omega)).mpr (Nat.le_trans (Nat.log2_self_le hm) h)

theorem nearestMagnitude_mono (h : m ≤ n) : nearestMagnitude m 1 ≤ nearestMagnitude n 1 := by
  by_cases hm : m = 0
  · rw [hm]
    exact Nat.zero_le _
  have hn : n ≠ 0 := by omega
  have hsteps : (m.log2 + 1022) * Nat.pow 2 52 + wholeUnits m ≤
      (n.log2 + 1022) * Nat.pow 2 52 + wholeUnits n := by
    obtain hlt | heq := Nat.lt_or_eq_of_le (log2_mono hm h)
    · -- A step of the exponent is worth all the units that there can be below it.
      have hunits := (wholeUnits_bounds hm).2
      have hunits' := (wholeUnits_bounds hn).1
      simp only [Nat.pow_eq] at hunits hunits' ⊢
      omega
    · have hunits : wholeUnits m ≤ wholeUnits n := by
        unfold wholeUnits
        rw [heq]
        exact roundedQuotient_mono (Nat.mul_le_mul_right _ h)
      rw [heq]
      exact Nat.add_le_add_left hunits _
  rw [nearestMagnitude_one hm, nearestMagnitude_one hn]
  omega

theorem nearestMagnitude_pos (hn : n ≠ 0) : 0 < nearestMagnitude n 1 :=
  Nat.lt_of_lt_of_le (by decide : 0 < nearestMagnitude 1 1) (nearestMagnitude_mono (by omega))

theorem wholeUnits_small (h : n.log2 ≤ 52) : wholeUnits n = n * Nat.pow 2 (52 - n.log2) := by
  have hd : n.log2 - 52 = 0 := by omega
  unfold wholeUnits
  rw [hd]
  simpa using roundedQuotient_mul (n * Nat.pow 2 (52 - n.log2)) Nat.one_pos

theorem wholeUnits_large (h : 52 ≤ n.log2) :
    Nat.pow 2 52 * Nat.pow 2 (n.log2 - 52) ≤ n ∧
      2 * (wholeUnits n * Nat.pow 2 (n.log2 - 52)) ≤ 2 * n + Nat.pow 2 (n.log2 - 52) ∧
      2 * n ≤ 2 * (wholeUnits n * Nat.pow 2 (n.log2 - 52)) + Nat.pow 2 (n.log2 - 52) := by
  have hn : n ≠ 0 := by
    rintro rfl
    simp at h
  have hd : 0 < Nat.pow 2 (n.log2 - 52) := Nat.two_pow_pos _
  have hscaled : n * Nat.pow 2 (52 - n.log2) = n := by
    have h0 : 52 - n.log2 = 0 := by omega
    rw [h0]
    exact Nat.mul_one n
  have hbounds := (scaled_bounds hn).1
  have hnear := roundedQuotient_near n hd
  rw [hscaled] at hbounds
  unfold wholeUnits
  rw [hscaled]
  exact ⟨hbounds, hnear⟩

/-- Two numbers of one magnitude have the same exponent and units, or one fills up its exponent's
units and the other has the next exponent. -/
theorem units_of_nearestMagnitude_eq (hm : m ≠ 0) (h : m ≤ n) (hn : n < Nat.pow 2 64)
    (heq : nearestMagnitude m 1 = nearestMagnitude n 1) :
    m.log2 = n.log2 ∧ wholeUnits m = wholeUnits n ∨
      n.log2 = m.log2 + 1 ∧ wholeUnits m = Nat.pow 2 53 ∧ wholeUnits n = Nat.pow 2 52 := by
  have hn0 : n ≠ 0 := by omega
  have hlog := log2_mono hm h
  have hlog64 : n.log2 < 64 := (Nat.log2_lt hn0).mpr hn
  have hmbounds := wholeUnits_bounds hm
  have hnbounds := wholeUnits_bounds hn0
  rw [nearestMagnitude_one hm, nearestMagnitude_one hn0] at heq
  simp only [Nat.pow_eq, infiniteMagnitude] at heq hmbounds hnbounds ⊢
  omega

theorem log2_of_nearestMagnitude_eq (hm : m ≠ 0) (h : m < n) (hn : n < Nat.pow 2 64)
    (heq : nearestMagnitude m 1 = nearestMagnitude n 1) : 53 ≤ m.log2 := by
  by_contra hsmall
  have hunits := wholeUnits_small (n := m) (by omega)
  obtain ⟨hsame, hu⟩ | ⟨-, hu, -⟩ := units_of_nearestMagnitude_eq hm (Nat.le_of_lt h) hn heq
  · rw [hunits, wholeUnits_small (by omega), hsame] at hu
    exact absurd (Nat.eq_of_mul_eq_mul_right (Nat.two_pow_pos _) hu) (Nat.ne_of_lt h)
  · have hbound := (scaled_bounds hm).2
    have hd : m.log2 - 52 = 0 := by omega
    rw [← hunits, hu, hd] at hbound
    exact absurd hbound (by decide)

theorem close_of_nearestMagnitude_eq (h : m < n) (hn : n < Nat.pow 2 64)
    (heq : nearestMagnitude m 1 = nearestMagnitude n 1) :
    Nat.pow 2 53 ≤ m ∧ (n - m) * Nat.pow 2 53 ≤ m + n := by
  have hm : m ≠ 0 := by
    rintro rfl
    have hpos := nearestMagnitude_pos (n := n) (by omega)
    rw [← heq] at hpos
    exact absurd hpos (Nat.lt_irrefl _)
  have hunits := units_of_nearestMagnitude_eq hm (Nat.le_of_lt h) hn heq
  have hlarge := log2_of_nearestMagnitude_eq hm h hn heq
  have hlow : 2 ^ m.log2 ≤ m := Nat.log2_self_le hm
  have h53 : Nat.pow 2 53 ≤ 2 ^ m.log2 := Nat.pow_le_pow_right (by decide) hlarge
  refine ⟨Nat.le_trans h53 hlow, ?_⟩
  obtain ⟨hmlow, hmnear, -⟩ := wholeUnits_large (n := m) (by omega)
  obtain ⟨hnlow, -, hnnear⟩ := wholeUnits_large (n := n) (by omega)
  simp only [Nat.pow_eq] at hmlow hnlow hmnear hnnear hunits ⊢
  obtain ⟨hsame, hu⟩ | ⟨hnext, hum, hun⟩ := hunits
  · -- Both are rounded to the same multiple of one unit.
    rw [← hsame] at hnlow hnnear
    rw [← hu] at hnnear
    omega
  · -- The upper one is rounded down to a power of two, and the lower one up to it.
    have hunit : n.log2 - 52 = m.log2 - 52 + 1 := by omega
    rw [hunit, Nat.pow_succ] at hnlow hnnear
    rw [hun] at hnnear
    rw [hum] at hmnear
    omega

end Magnitudes

/-- Whole numbers that 64 bits can hold, with a sign or without one. -/
def Fits64 (n : Int) : Prop := -(Nat.pow 2 63 : Int) ≤ n ∧ n < Nat.pow 2 64

instance (n : Int) : Decidable (Fits64 n) := inferInstanceAs (Decidable (_ ∧ _))

namespace Binary64

variable {m n : Int}

theorem ofInt_eq_iff : ofInt m = ofInt n ↔ (m < 0 ↔ n < 0) ∧
    nearestMagnitude m.natAbs 1 = nearestMagnitude n.natAbs 1 := by
  simp [ofInt, ofRatio]

theorem place_ofInt_lt (h : m < n) (hne : ofInt m ≠ ofInt n) :
    (ofInt m).place < (ofInt n).place := by
  rw [ne_eq, ofInt_eq_iff] at hne
  simp only [place, ofInt, ofRatio, decide_eq_true_eq]
  by_cases hm : m < 0
  · by_cases hn : n < 0
    · have hmono := nearestMagnitude_mono (m := n.natAbs) (n := m.natAbs) (by omega)
      simp only [hm, hn, if_true, iff_self, true_and] at hne ⊢
      omega
    · have hpos := nearestMagnitude_pos (n := m.natAbs) (by omega)
      simp only [hm, hn, if_true, if_false]
      omega
  · have hn : ¬n < 0 := by omega
    have hmono := nearestMagnitude_mono (m := m.natAbs) (n := n.natAbs) (by omega)
    simp only [hm, hn, if_false, iff_self, true_and] at hne ⊢
    omega

theorem rank_ofInt (n : Int) :
    (ofInt n).rank = if n < 0 then (ofInt n).place - 1 else (ofInt n).place := by
  by_cases hn : n < 0 <;> simp [rank, place, ofInt, ofRatio, hn]

theorem rank_ofInt_lt (h : m < n) (hne : ofInt m ≠ ofInt n) :
    (ofInt m).rank < (ofInt n).rank := by
  have hplace := place_ofInt_lt h hne
  rw [rank_ofInt, rank_ofInt]
  split <;> split <;> omega

theorem compare_ofInt {f : Binary64 → Int}
    (hf : ∀ {m n : Int}, m < n → ofInt m ≠ ofInt n → f (ofInt m) < f (ofInt n)) (m n : Int) :
    compare (f (ofInt m)) (f (ofInt n)) = if ofInt m = ofInt n then .eq else compare m n := by
  split
  · next heq => exact compare_eq_iff_eq.mpr (congrArg f heq)
  · next hne =>
    obtain hlt | rfl | hgt := lt_trichotomy m n
    · rw [compare_lt_iff_lt.mpr hlt, compare_lt_iff_lt.mpr (hf hlt hne)]
    · exact absurd rfl hne
    · rw [compare_gt_iff_gt.mpr hgt, compare_gt_iff_gt.mpr (hf hgt (Ne.symm hne))]

theorem close_of_ofInt_eq (hm : Fits64 m) (hn : Fits64 n) (hne : m ≠ n)
    (h : ofInt m = ofInt n) :
    Nat.pow 2 53 ≤ m.natAbs ∧ Nat.pow 2 53 ≤ n.natAbs ∧
      (m - n).natAbs * Nat.pow 2 53 ≤ m.natAbs + n.natAbs := by
  obtain ⟨hsign, hmagnitude⟩ := ofInt_eq_iff.mp h
  unfold Fits64 at hm hn
  simp only [Nat.pow_eq] at hm hn ⊢
  obtain hlt | heq | hgt := Nat.lt_trichotomy m.natAbs n.natAbs
  · obtain ⟨hlow, hclose⟩ := close_of_nearestMagnitude_eq hlt (by rw [Nat.pow_eq]; omega) hmagnitude
    simp only [Nat.pow_eq] at hlow hclose
    omega
  · omega
  · obtain ⟨hlow, hclose⟩ :=
      close_of_nearestMagnitude_eq hgt (by rw [Nat.pow_eq]; omega) hmagnitude.symm
    simp only [Nat.pow_eq] at hlow hclose
    omega

end Binary64

end DbConsole
