import DbConsole.Proofs.Decimal.Written

namespace DbConsole

open Text

theorem Text.isDigit_of_natural? {s : List Char} (h : (natural? s).isSome = true) {c : Char}
    (hc : c ∈ s) : isDigit c = true := by
  unfold natural? at h
  split at h
  · next hs => exact List.all_eq_true.mp hs.2 c hc
  · cases h

theorem Text.isAlpha_of_toLower {c : Char} (h : c.toLower.isAlpha = true) : c.isAlpha = true := by
  unfold Char.toLower at h
  split at h
  · next hu =>
    have hupper : c.isUpper = true := decide_eq_true hu
    exact Bool.or_eq_true_iff.mpr (.inl hupper)
  · exact h

namespace FloatReading

variable {s : List Char} {c : Char}

theorem isNumberChar_of_exponent? (h : (exponent? s).isSome = true) (hc : c ∈ s) :
    Token.isNumberChar c = true := by
  have hdigit : ∀ {digits : List Char} {f : Int → Int},
      (((natural? digits).bind fun n => some (n : Int)).map f).isSome = true → c ∈ digits →
        Token.isNumberChar c = true := by
    intro digits f hd hm
    rw [Option.isSome_map] at hd
    simp [Token.isNumberChar, isDigit_of_natural? (Option.isSome_of_isSome_bind hd) hm]
  unfold exponent? at h
  split at h
  · cases hc
  next mark rest =>
  split at h
  · next hmark =>
    obtain rfl | hc := List.mem_cons.mp hc
    · obtain rfl | rfl := hmark <;> rfl
    split at h
    · next digits =>
      obtain rfl | hc := List.mem_cons.mp hc
      · rfl
      · exact hdigit h hc
    · next digits =>
      obtain rfl | hc := List.mem_cons.mp hc
      · rfl
      · exact hdigit h hc
    · exact hdigit h hc
  · cases h

theorem isNumberChar_of_finite? {negative : Bool} (h : (finite? negative s).isSome = true)
    (hc : c ∈ s) : Token.isNumberChar c = true := by
  have hdigit : ∀ {digits : List Char}, c ∈ digits.takeWhile isDigit →
      Token.isNumberChar c = true := by
    intro digits hm
    simp [Token.isNumberChar, List.mem_takeWhile_imp hm]
  obtain ⟨x, hx⟩ := Option.isSome_iff_exists.mp h
  obtain ⟨_, _, hx⟩ := Option.bind_eq_some_iff.mp hx
  obtain ⟨e, he, _⟩ := Option.bind_eq_some_iff.mp hx
  have hsplit : c ∈ s.takeWhile isDigit ++ s.dropWhile isDigit := by
    rwa [List.takeWhile_append_dropWhile]
  obtain hc | hc := List.mem_append.mp hsplit
  · exact hdigit hc
  generalize s.dropWhile isDigit = rest at hc he
  split at he
  · next more =>
    obtain rfl | hc := List.mem_cons.mp hc
    · rfl
    rw [← List.takeWhile_append_dropWhile (p := isDigit) (l := more)] at hc
    obtain hc | hc := List.mem_append.mp hc
    · exact hdigit hc
    · exact isNumberChar_of_exponent? (Option.isSome_of_eq_some he) hc
  · exact isNumberChar_of_exponent? (Option.isSome_of_eq_some he) hc

theorem chars_of_ofString? {s : String} (h : (ofString? s).isSome = true) (hc : c ∈ s.toList) :
    Token.isNumberChar c = true ∨ c.isAlpha = true := by
  have hword : ∀ {t : List Char} {word : String}, String.ofList (t.map Char.toLower) = word →
      (∀ d ∈ word.toList, d.isAlpha = true) → c ∈ t → c.isAlpha = true := by
    rintro t _ rfl hw hm
    refine isAlpha_of_toLower (hw _ ?_)
    rw [String.toList_ofList]
    exact List.mem_map_of_mem hm
  have hunsigned : ∀ {negative : Bool} {t : List Char}, (unsigned? negative t).isSome = true →
      c ∈ t → Token.isNumberChar c = true ∨ c.isAlpha = true := by
    intro negative t ht hm
    unfold unsigned? at ht
    split at ht
    · next hw => exact .inr (hword hw (by simp) hm)
    · next hw => exact .inr (hword hw (by simp) hm)
    · next hw => exact .inr (hword hw (by simp) hm)
    · exact .inl (isNumberChar_of_finite? ht hm)
  unfold ofString? at h
  split at h
  · next rest hs =>
    rw [hs] at hc
    obtain rfl | hc := List.mem_cons.mp hc
    · exact .inl rfl
    · exact hunsigned h hc
  · next rest hs =>
    rw [hs] at hc
    obtain rfl | hc := List.mem_cons.mp hc
    · exact .inl rfl
    · exact hunsigned h hc
  · exact hunsigned h hc

end FloatReading

end DbConsole
