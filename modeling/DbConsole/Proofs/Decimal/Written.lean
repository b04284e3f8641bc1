import DbConsole.Json.Printer
import DbConsole.Json.Token
import DbConsole.Text.Blank
import DbConsole.Decimal.Literal
import Mathlib.Data.List.DropRight
import Mathlib.Data.Option.Basic

namespace DbConsole

namespace Text

theorem isDigit_iff {c : Char} : isDigit c = true ↔ '0' ≤ c ∧ c ≤ '9' := by
  unfold isDigit digit?
  split <;> simp_all

theorem isDigit_of_mem_toDigits {n : Nat} {c : Char} (h : c ∈ Nat.toDigits 10 n) :
    isDigit c = true := by
  have hc : c.isDigit = true := Nat.isDigit_of_mem_toDigits (by decide) (by decide) h
  simpa [isDigit_iff, Char.isDigit, Char.le_def] using hc

theorem trimChars_of_no_blank {s : List Char} (h : ∀ c ∈ s, isBlank c = false) :
    trimChars s = s := by
  have hl : s.dropWhile isBlank = s := by
    refine List.dropWhile_eq_self_iff.mpr fun hs => ?_
    simp [h _ (List.getElem_mem hs)]
  have hr : s.rdropWhile isBlank = s := by
    refine List.rdropWhile_eq_self_iff.mpr fun hs => ?_
    simp [h _ (List.getLast_mem hs)]
  unfold trimChars
  rw [hl]
  exact hr

theorem dropWhile_rdropWhile {p : Char → Bool} {s : List Char} (h : s.dropWhile p = s) :
    (s.rdropWhile p).dropWhile p = s.rdropWhile p := by
  refine List.dropWhile_eq_self_iff.mpr fun hs => ?_
  have hp := s.rdropWhile_prefix p
  have hpos : 0 < s.length := Nat.lt_of_lt_of_le hs hp.length_le
  have he : (s.rdropWhile p)[0] = s[0] := hp.getElem hs
  rw [he]
  exact List.dropWhile_eq_self_iff.mp h _

theorem trimChars_trimChars (s : List Char) : trimChars (trimChars s) = trimChars s := by
  change ((trimChars s).dropWhile isBlank).rdropWhile isBlank = _
  have hl : (trimChars s).dropWhile isBlank = trimChars s :=
    dropWhile_rdropWhile (List.dropWhile_idempotent _ _)
  rw [hl]
  exact List.rdropWhile_idempotent _ _

theorem trim_trim (s : String) : trim (trim s) = trim s := by
  unfold trim
  rw [String.toList_ofList, trimChars_trimChars]

end Text

open Text

/-- No exponent, or one with its mark and its sign. -/
inductive ExponentText : List Char → Prop where
  | absent : ExponentText []
  | present (sign : Char) (digits : List Char) (hs : sign = '-' ∨ sign = '+') (hn : digits ≠ [])
    (hd : ∀ c ∈ digits, isDigit c = true) : ExponentText ('e' :: sign :: digits)

/-- A number without its sign: digits, with a point behind the first of them or without, and an
exponent. -/
inductive DecimalText : List Char → Prop where
  | whole (digits exponent : List Char) (hn : digits ≠ []) (hd : ∀ c ∈ digits, isDigit c = true)
    (he : ExponentText exponent) : DecimalText (digits ++ exponent)
  | point (digits fraction exponent : List Char) (hn : digits ≠ [])
    (hd : ∀ c ∈ digits, isDigit c = true) (hf : ∀ c ∈ fraction, isDigit c = true)
    (he : ExponentText exponent) : DecimalText (digits ++ '.' :: (fraction ++ exponent))

theorem ExponentText.isSome {s : List Char} (h : ExponentText s) :
    (FloatReading.exponent? s).isSome = true := by
  cases h with
  | absent => rfl
  | present sign digits hs hn hd =>
    have hr : natural? digits = some (appendDigits 0 digits) := by
      unfold natural?
      rw [if_pos ⟨hn, List.all_eq_true.mpr hd⟩]
    rcases hs with rfl | rfl <;> simp [FloatReading.exponent?, hr]

theorem ExponentText.isNumberChar {s : List Char} (h : ExponentText s) {c : Char} (hc : c ∈ s) :
    Token.isNumberChar c = true := by
  cases h with
  | absent => cases hc
  | present sign digits hs hn hd =>
    simp only [List.mem_cons] at hc
    rcases hc with rfl | rfl | hc
    · rfl
    · rcases hs with rfl | rfl <;> rfl
    · simp [Token.isNumberChar, hd c hc]

theorem ExponentText.takeWhile {s digits : List Char} (h : ExponentText s)
    (hd : ∀ c ∈ digits, isDigit c = true) :
    (digits ++ s).takeWhile isDigit = digits ∧ (digits ++ s).dropWhile isDigit = s := by
  rw [List.takeWhile_append_of_pos hd, List.dropWhile_append_of_pos hd]
  have he : isDigit 'e' = false := by decide
  cases h with
  | absent => simp
  | present sign digits hs hn hd => simp [he]

namespace DecimalText

variable {s : List Char}

theorem isNumberChar (h : DecimalText s) {c : Char} (hc : c ∈ s) :
    Token.isNumberChar c = true := by
  have hdigit : ∀ {digits : List Char}, (∀ c ∈ digits, isDigit c = true) → c ∈ digits →
      Token.isNumberChar c = true := by
    intro digits hd hm
    simp [Token.isNumberChar, hd c hm]
  cases h with
  | whole digits exponent hn hd he =>
    rcases List.mem_append.mp hc with hc | hc
    · exact hdigit hd hc
    · exact he.isNumberChar hc
  | point digits fraction exponent hn hd hf he =>
    simp only [List.mem_append, List.mem_cons] at hc
    rcases hc with hc | rfl | hc | hc
    · exact hdigit hd hc
    · rfl
    · exact hdigit hf hc
    · exact he.isNumberChar hc

theorem finite? (h : DecimalText s) (negative : Bool) :
    (FloatReading.finite? negative s).isSome = true := by
  cases h with
  | whole digits exponent hn hd he =>
    obtain ⟨e, hr⟩ := Option.isSome_iff_exists.mp he.isSome
    obtain ⟨ht, hw⟩ := he.takeWhile hd
    unfold FloatReading.finite?
    rw [ht, hw]
    cases he with
    | absent => simp [hn, hr]
    | present sign digits hs hn' hd' => simp [hn, hr]
  | point digits fraction exponent hn hd hf he =>
    obtain ⟨e, hr⟩ := Option.isSome_iff_exists.mp he.isSome
    obtain ⟨ht, hw⟩ := he.takeWhile hf
    have hp : isDigit '.' = false := by decide
    unfold FloatReading.finite?
    rw [List.takeWhile_append_of_pos hd, List.dropWhile_append_of_pos hd]
    simp [hp, ht, hw, hn, hr]

theorem unsigned? (h : DecimalText s) (negative : Bool) :
    (FloatReading.unsigned? negative s).isSome = true := by
  unfold FloatReading.unsigned?
  split
  · rfl
  · rfl
  · rfl
  · exact h.finite? negative

theorem head_isDigit (h : DecimalText s) : ∃ c rest, s = c :: rest ∧ isDigit c = true := by
  have hcons : ∀ {digits : List Char}, digits ≠ [] → (∀ c ∈ digits, isDigit c = true) →
      ∀ rest, ∃ c more, digits ++ rest = c :: more ∧ isDigit c = true := by
    intro digits hn hd rest
    obtain ⟨c, more, rfl⟩ := List.exists_cons_of_ne_nil hn
    exact ⟨c, more ++ rest, rfl, hd c (.head _)⟩
  cases h with
  | whole digits exponent hn hd he => exact hcons hn hd exponent
  | point digits fraction exponent hn hd hf he => exact hcons hn hd _

end DecimalText

def SignedText (s : List Char) : Prop := DecimalText s ∨ ∃ t, DecimalText t ∧ s = '-' :: t

namespace SignedText

variable {s : List Char}

theorem isNumberChar (h : SignedText s) {c : Char} (hc : c ∈ s) : Token.isNumberChar c = true := by
  rcases h with h | ⟨t, h, rfl⟩
  · exact h.isNumberChar hc
  · rcases List.mem_cons.mp hc with rfl | hc
    · rfl
    · exact h.isNumberChar hc

theorem ne_nil (h : SignedText s) : s ≠ [] := by
  obtain h | ⟨t, _, rfl⟩ := h
  · obtain ⟨c, rest, rfl, _⟩ := h.head_isDigit
    exact List.cons_ne_nil c rest
  · exact List.cons_ne_nil '-' t

theorem ofString? (h : SignedText s) : (FloatReading.ofString? (.ofList s)).isSome = true := by
  unfold FloatReading.ofString?
  rw [String.toList_ofList]
  rcases h with h | ⟨t, h, rfl⟩
  · obtain ⟨c, rest, rfl, hd⟩ := h.head_isDigit
    have hm : isDigit '-' = false := by decide
    have hp : isDigit '+' = false := by decide
    split
    · next he => simp_all
    · next he => simp_all
    · exact h.unsigned? false
  · exact h.unsigned? true

theorem cons (h : DecimalText s) (negative : Bool) :
    SignedText ((if negative then ['-'] else []) ++ s) := by
  cases negative with
  | false => exact .inl h
  | true => exact .inr ⟨s, h, rfl⟩

end SignedText

theorem signedText_toDigits (negative : Bool) (n : Nat) :
    SignedText ((if negative then ['-'] else []) ++ Nat.toDigits 10 n) := by
  refine .cons ?_ negative
  have h := DecimalText.whole (Nat.toDigits 10 n) [] Nat.toDigits_ne_nil
    (fun _ => isDigit_of_mem_toDigits) .absent
  rwa [List.append_nil] at h

namespace Layout

theorem isDigit_of_mem_zeros {n : Nat} {c : Char} (h : c ∈ zeros n) : isDigit c = true := by
  rw [List.eq_of_mem_replicate h]
  decide

theorem isDigit_of_mem_significantDigits {n : Nat} {c : Char} (h : c ∈ significantDigits n) :
    isDigit c = true := by
  have hp : significantDigits n <+: Nat.toDigits 10 n := List.rdropWhile_prefix _ _
  exact isDigit_of_mem_toDigits (hp.subset h)

theorem ofDigitChars_zeros (s : List Char) (h : ∀ c ∈ s, c = '0') :
    Nat.ofDigitChars 10 s 0 = 0 := by
  induction s with
  | nil => rfl
  | cons c rest ih =>
    rw [h c (.head _), Nat.ofDigitChars_cons]
    exact ih fun c hc => h c (.tail _ hc)

theorem significantDigits_ne_nil {n : Nat} (hn : 0 < n) : significantDigits n ≠ [] := by
  intro h
  have hall : ∀ c ∈ Nat.toDigits 10 n, c = '0' := by
    simpa using List.rdropWhile_eq_nil_iff.mp h
  have hz := ofDigitChars_zeros _ hall
  rw [Nat.ofDigitChars_toDigits] at hz
  · exact Nat.ne_of_gt hn hz
  all_goals decide

theorem decimalText_positional {digits : List Char} (hd : ∀ c ∈ digits, isDigit c = true)
    (point : Int) : DecimalText (positional digits point) := by
  have hzero : ∀ c ∈ ['0'], isDigit c = true := List.forall_mem_singleton.mpr rfl
  unfold positional
  split
  · have hf : ∀ c ∈ zeros (-point).toNat ++ digits, isDigit c = true := by
      intro c hc
      exact (List.mem_append.mp hc).elim isDigit_of_mem_zeros (hd c)
    have h := DecimalText.point ['0'] _ [] (by simp) hzero hf .absent
    simpa using h
  · next hp =>
    dsimp only
    split
    · next hl =>
      have hw : ∀ c ∈ digits ++ zeros (point.toNat - digits.length), isDigit c = true := by
        intro c hc
        exact (List.mem_append.mp hc).elim (hd c) isDigit_of_mem_zeros
      have hn : digits ++ zeros (point.toNat - digits.length) ≠ [] := by
        rw [← List.length_pos_iff, List.length_append, zeros, List.length_replicate]
        omega
      have h := DecimalText.point _ ['0'] [] hn hw hzero .absent
      simpa using h
    · next hl =>
      have hn : digits.take point.toNat ≠ [] := by
        rw [← List.length_pos_iff, List.length_take]
        omega
      have h := DecimalText.point _ (digits.drop point.toNat) [] hn
        (fun c hc => hd c (List.mem_of_mem_take hc)) (fun c hc => hd c (List.mem_of_mem_drop hc))
        .absent
      simpa using h

theorem decimalText_scientific {digits : List Char} (hn : digits ≠ [])
    (hd : ∀ c ∈ digits, isDigit c = true) (point : Int) :
    DecimalText (console.scientific digits point) := by
  obtain ⟨c, rest, rfl⟩ := List.exists_cons_of_ne_nil hn
  have hc : ∀ d ∈ [c], isDigit d = true := fun d hm => hd d (by simp_all)
  have hr : ∀ d ∈ rest, isDigit d = true := fun d hm => hd d (.tail _ hm)
  have he : ExponentText ('e' :: (if point - 1 < 0 then ['-'] else ['+']) ++
      Nat.toDigits 10 (point - 1).natAbs) := by
    split
    · exact .present '-' _ (.inl rfl) Nat.toDigits_ne_nil fun _ => isDigit_of_mem_toDigits
    · exact .present '+' _ (.inr rfl) Nat.toDigits_ne_nil fun _ => isDigit_of_mem_toDigits
  cases rest with
  | nil => exact .whole [c] _ (by simp) hc he
  | cons d more =>
    have h := DecimalText.point [c] (d :: more) _ (by simp) hc hr he
    simpa [scientific, console] using h

end Layout

namespace Binary64

theorem significand_pos {x : Binary64} (h : x.magnitude ≠ 0) : 0 < x.significand := by
  unfold significand
  dsimp only
  split
  · next hl =>
    rw [Nat.mod_eq_of_lt hl]
    exact Nat.pos_of_ne_zero h
  · have hp : 0 < Nat.pow 2 52 := by decide
    exact Nat.add_pos_left hp _

theorem Surroundings.digits_pos {s : Surroundings} (hl : 0 < s.low) (hn : 0 < s.num)
    {exponent : Int} {d : Decimal} (h : s.onGrid? exponent = some d) : 0 < d.digits := by
  unfold onGrid? at h
  extract_lets num den holds below rest above nearer farther at h
  have hnum : 0 < num := Nat.mul_pos hn (Nat.pow_pos (by decide))
  have hlow : 0 < s.low * num := Nat.mul_pos hl hnum
  have hpos : ∀ c, holds c → 0 < c := by
    intro c hc
    refine Nat.pos_of_ne_zero ?_
    rintro rfl
    simp only [holds, Nat.zero_mul] at hc
    split at hc <;> omega
  by_cases hc : holds nearer
  · rw [if_pos hc] at h
    cases h
    exact hpos _ hc
  · rw [if_neg hc] at h
    by_cases hf : holds farther
    · rw [if_pos hf] at h
      cases h
      exact hpos _ hf
    · rw [if_neg hf] at h
      cases h

theorem shortest_digits (x : Binary64) : x.shortest = ⟨0, 0⟩ ∨ 0 < x.shortest.digits := by
  unfold shortest
  split
  · exact .inl rfl
  · next hm =>
    have hs := significand_pos hm
    have hl : 0 < x.surroundings.low := by
      unfold surroundings
      dsimp only
      split <;> omega
    have hn : 0 < x.surroundings.num := Nat.pow_pos (by decide)
    dsimp only
    cases hf : (List.range 17).findSome? fun (k : Nat) => x.surroundings.onGrid?
        (decimalExponent (x.surroundings.value * x.surroundings.num) x.surroundings.den - k) with
    | none => exact .inl rfl
    | some d =>
      obtain ⟨k, _, hk⟩ := List.exists_of_findSome?_eq_some hf
      exact .inr (Surroundings.digits_pos hl hn hk)

end Binary64

theorem Layout.signedText_write (x : Binary64) : SignedText (console.write x) := by
  have hzero : DecimalText ['0', '.', '0'] :=
    .point ['0'] ['0'] [] (by decide) (List.forall_mem_singleton.mpr rfl)
      (List.forall_mem_singleton.mpr rfl) .absent
  unfold write
  dsimp only
  split
  · exact .cons hzero x.negative
  · have hd : ∀ c ∈ significantDigits x.shortest.digits, isDigit c = true :=
      fun _ => isDigit_of_mem_significantDigits
    split
    · exact .cons (decimalText_positional hd _) x.negative
    · next hp =>
      refine .cons (decimalText_scientific (significantDigits_ne_nil ?_) hd _) x.negative
      rcases x.shortest_digits with he | hpos
      · rw [he] at hp
        exact absurd (by decide) hp
      · exact hpos

namespace Number

theorem signedText_write (n : Number) : SignedText n.write := by
  cases n with
  | int n =>
    change SignedText (if n < 0 then '-' :: Nat.toDigits 10 n.natAbs else Nat.toDigits 10 n.natAbs)
    split
    · exact signedText_toDigits true n.natAbs
    · exact signedText_toDigits false n.natAbs
  | float x hx => exact Layout.signedText_write x

theorem reads (n : Number) : (FloatReading.ofString? n.text).isSome = true :=
  n.signedText_write.ofString?

theorem isBlank_of_isNumberChar {c : Char} (h : Token.isNumberChar c = true) :
    Text.isBlank c = false := by
  simp only [Token.isNumberChar, Bool.or_eq_true, beq_iff_eq, isDigit_iff] at h
  rcases h with ((((⟨hl, hu⟩ | rfl) | rfl) | rfl) | rfl) | rfl
  · have hl : 48 ≤ c.toNat := hl
    have hu : c.toNat ≤ 57 := hu
    simp only [Text.isBlank, scatteredBlanks, List.contains_cons, List.contains_nil,
      Bool.or_eq_false_iff, Bool.and_eq_false_iff, decide_eq_false_iff_not, beq_eq_false_iff_ne]
    refine ⟨⟨?_, ?_⟩, ?_⟩ <;> grind
  all_goals decide

theorem trim_text (n : Number) : Text.trim n.text = n.text := by
  unfold Text.trim text
  rw [String.toList_ofList, trimChars_of_no_blank]
  exact fun c hc => isBlank_of_isNumberChar (n.signedText_write.isNumberChar hc)

end Number

end DbConsole
