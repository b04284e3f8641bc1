import DbConsole.Proofs.Decimal.Written
import DbConsole.Query.Comparison

namespace DbConsole

namespace Json

/-- The place on the number line of a number, or of the number that a text reads as. -/
def spelled? : Json → Option Int
  | .number n => some n.toBinary64.place
  | .string s => textPlace? s
  | _ => none

/-- Two values spell one number, and are not written alike. -/
def Respells (a b : Json) : Prop :=
  a.text ≠ b.text ∧ ∃ place, a.spelled? = some place ∧ b.spelled? = some place

theorem write_of_text_eq {a b : Json} (h : a.text = b.text) : a.write = b.write :=
  String.ofList_injective h

theorem write_number (n : Number) : (Json.number n).write = n.write := by
  unfold Json.write
  rfl

theorem write_string (s : String) : ∃ rest, (Json.string s).write = '"' :: rest :=
  ⟨_, by unfold Json.write; rfl⟩

theorem write_head {a : Json} (hs : ∀ s, a ≠ .string s) (hn : ∀ n, a ≠ .number n) :
    ∃ c rest, a.write = c :: rest ∧ c ≠ '"' ∧ Token.isNumberChar c = false := by
  cases a with
  | null => exact ⟨'n', _, by unfold Json.write; rfl, by decide, by decide⟩
  | bool b => cases b <;> exact ⟨_, _, by unfold Json.write; rfl, by decide, by decide⟩
  | number n => exact absurd rfl (hn n)
  | string s => exact absurd rfl (hs s)
  | array items => exact ⟨'[', _, by unfold Json.write; rfl, by decide, by decide⟩
  | object members => exact ⟨'\x7b', _, by unfold Json.write; rfl, by decide, by decide⟩

theorem text_ne_number {a : Json} (hs : ∀ s, a ≠ .string s) (hn : ∀ n, a ≠ .number n)
    (n : Number) : a.text ≠ (Json.number n).text := by
  intro h
  obtain ⟨c, rest, hw, -, hc⟩ := write_head hs hn
  have hm : c ∈ n.write := by
    rw [← write_number, ← write_of_text_eq h, hw]
    exact .head _
  rw [n.signedText_write.isNumberChar hm] at hc
  cases hc

theorem text_ne_string {a : Json} (hs : ∀ s, a ≠ .string s) (hn : ∀ n, a ≠ .number n)
    (s : String) : a.text ≠ (Json.string s).text := by
  intro h
  obtain ⟨c, rest, hw, hc, -⟩ := write_head hs hn
  obtain ⟨more, hq⟩ := write_string s
  have he := write_of_text_eq h
  rw [hw, hq, List.cons.injEq] at he
  exact hc he.1

variable {a b v : Json}

theorem text_eq_of_compare (h : a.compare? v = some .eq) (hv : v.spelled? = none) :
    a.text = v.text := by
  unfold compare? at h
  split at h
  · cases h
  · cases h
  · cases hv
  · next s =>
    change textPlace? s = none at hv
    simp [hv] at h
  · cases hv
  · next s t =>
    have he : s = t := Std.LawfulEqCmp.eq_of_compare (Option.some.inj h)
    rw [he]
  · next x y =>
    have he : x = y := Std.LawfulEqCmp.eq_of_compare (Option.some.inj h)
    rw [he]
  · exact Std.LawfulEqCmp.eq_of_compare (Option.some.inj h)

theorem spelled_of_compare (h : a.compare? v = some .eq) {place : Int}
    (hv : v.spelled? = some place) : a.spelled? = some place := by
  cases v with
  | null | bool | array | object => cases hv
  | number y =>
    cases a with
    | null => cases h
    | number x =>
      have he : x.toBinary64.place = y.toBinary64.place :=
        Std.LawfulEqCmp.eq_of_compare (Option.some.inj h)
      rw [← hv, spelled?, spelled?, he]
    | string s =>
      obtain ⟨p, hp, he⟩ := Option.map_eq_some_iff.mp h
      have hpy : p = y.toBinary64.place := Std.LawfulEqCmp.eq_of_compare he
      rw [← hv, spelled?, spelled?, hp, hpy]
    | bool | array | object =>
      have ht := Std.LawfulEqCmp.eq_of_compare (Option.some.inj h)
      exact absurd ht (text_ne_number (by simp) (by simp) y)
  | string t =>
    cases a with
    | null => cases h
    | number x =>
      obtain ⟨p, hp, he⟩ := Option.map_eq_some_iff.mp h
      have hpx : x.toBinary64.place = p := Std.LawfulEqCmp.eq_of_compare he
      rw [← hv, spelled?, spelled?, hp, hpx]
    | string s =>
      have he : s = t := Std.LawfulEqCmp.eq_of_compare (Option.some.inj h)
      rw [he, hv]
    | bool | array | object =>
      have ht := Std.LawfulEqCmp.eq_of_compare (Option.some.inj h)
      exact absurd ht (text_ne_string (by simp) (by simp) t)

theorem respells_of_compare (ha : a.compare? v = some .eq) (hb : b.compare? v = some .eq)
    (hne : a.text ≠ b.text) : a.Respells b := by
  cases hv : v.spelled? with
  | none => exact absurd ((text_eq_of_compare ha hv).trans (text_eq_of_compare hb hv).symm) hne
  | some place => exact ⟨hne, place, spelled_of_compare ha hv, spelled_of_compare hb hv⟩

end Json

end DbConsole
