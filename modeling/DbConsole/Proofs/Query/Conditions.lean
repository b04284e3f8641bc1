import DbConsole.Query.Plan

namespace DbConsole

namespace Json

/-- A text that does not read as a number, or reads as what is not a number. -/
def Unnumbered (s : String) : Prop :=
  FloatReading.ofString? (Text.trim s) = none ∨
    FloatReading.ofString? (Text.trim s) = some .notANumber

/-- Values that filters do not compare. -/
inductive Incomparable : Json → Json → Prop where
  | nullLeft (b : Json) : Incomparable .null b
  | nullRight (a : Json) : Incomparable a .null
  | numberText (n : Number) (s : String) (h : Unnumbered s) : Incomparable (.number n) (.string s)
  | textNumber (s : String) (n : Number) (h : Unnumbered s) : Incomparable (.string s) (.number n)

variable {a b : Json}

theorem textPlace?_eq_none {s : String} : textPlace? s = none ↔ Unnumbered s := by
  unfold textPlace? Unnumbered
  rcases FloatReading.ofString? (Text.trim s) with _ | _ | _ <;> simp [FloatReading.place?]

theorem compare?_eq_none : a.compare? b = none ↔ Incomparable a b := by
  constructor
  · intro h
    unfold compare? at h
    split at h
    · exact .nullLeft _
    · exact .nullRight _
    · cases h
    · next n s => exact .numberText n s (textPlace?_eq_none.mp (Option.map_eq_none_iff.mp h))
    · next s n => exact .textNumber s n (textPlace?_eq_none.mp (Option.map_eq_none_iff.mp h))
    · cases h
    · cases h
    · cases h
  · intro h
    cases h with
    | nullLeft => rfl
    | nullRight => cases a <;> rfl
    | numberText _ _ h | textNumber _ _ h =>
      exact Option.map_eq_none_iff.mpr (textPlace?_eq_none.mpr h)

theorem compare?_swap (a b : Json) : b.compare? a = (a.compare? b).map Ordering.swap := by
  have hswap {α : Type} [Ord α] [Std.OrientedOrd α] (x y : α) :
      compare y x = (compare x y).swap := Std.OrientedCmp.eq_swap
  cases a <;> cases b <;> simp [compare?, Function.comp_def, ← hswap]

theorem isNull_iff : a.isNull = true ↔ a = .null := by cases a <;> simp [isNull]

theorem compare?_self (h : a ≠ .null) : a.compare? a = some .eq := by
  cases a with
  | null => exact absurd rfl h
  | bool | number | string | array | object => simp [compare?]

end Json

theorem Row.cell_of_length_le {row : Row} {place : Nat} (h : row.length ≤ place) :
    row.cell place = .null := by
  rw [cell, List.getElem?_eq_none h]
  rfl

namespace Comparator

/-- The conditions that are met say how two things of a line stand: exactly one of before, equal and
behind, and the other three accordingly. -/
structure Places (met : Comparator → Bool) : Prop where
  one : (met .lt, met .eq, met .gt) ∈
    [(true, false, false), (false, true, false), (false, false, true)]
  le : met .le = (met .lt || met .eq)
  ge : met .ge = (met .gt || met .eq)
  ne : met .ne = !met .eq

theorem places_accepts (o : Ordering) : Places (·.accepts (some o)) := by
  cases o <;> exact ⟨by decide, rfl, rfl, rfl⟩

theorem holds_of_hasOperand {c : Comparator} (h : c.hasOperand = true) (cell operand : Json) :
    c.holds cell operand = c.accepts (cell.compare? operand) := by
  cases c with
  | isNull | isNotNull => cases h
  | eq | ne | lt | le | gt | ge => rfl

variable {cell operand : Json}

theorem places_holds (h : ¬cell.Incomparable operand) : Places (·.holds cell operand) := by
  obtain ⟨o, ho⟩ := Option.ne_none_iff_exists'.mp (mt Json.compare?_eq_none.mp h)
  have hp := places_accepts o
  rw [← ho] at hp
  exact ⟨hp.one, hp.le, hp.ge, hp.ne⟩

theorem holds_of_incomparable (h : cell.Incomparable operand) {c : Comparator}
    (hc : c.hasOperand = true) : c.holds cell operand = false := by
  rw [holds_of_hasOperand hc, Json.compare?_eq_none.mpr h]
  cases c <;> rfl

end Comparator

namespace Plan

theorem accepts_condition (place : Nat) (c : Condition) (order : List (Nat × Bool))
    (limit : Option UInt64) (row : Row) :
    (Plan.mk [(place, c)] order limit).accepts row =
      c.comparator.holds (row.cell place) c.value := by
  simp [accepts]

/-- Comparisons are the same from both sides, and every value but null equals itself. So a row is
kept by one of the conditions for before, equal and behind, and the other three agree with them,
unless cell and operand are incomparable: then a row is kept by none of the six. It is always kept
by one of the two conditions about null. -/
theorem comparisons_consistent :
    (∀ a b : Json, b.compare? a = (a.compare? b).map Ordering.swap) ∧
    (∀ a : Json, a ≠ .null → a.compare? a = some .eq) ∧
    (∀ a b : Json, a.compare? b = none ↔ a.Incomparable b) ∧
    ∀ (row : Row) (place : Nat) (column : String) (operand : Json) (order : List (Nat × Bool))
      (limit : Option UInt64),
      let keeps := fun c => (Plan.mk [(place, ⟨column, c, operand⟩)] order limit).accepts row
      (¬(row.cell place).Incomparable operand → Comparator.Places keeps) ∧
      ((row.cell place).Incomparable operand → ∀ c, c.hasOperand = true → keeps c = false) ∧
      (keeps .isNull = true ↔ row.cell place = .null) ∧ keeps .isNotNull = !keeps .isNull ∧
      (row.length ≤ place → keeps .isNull = true) := by
  refine ⟨Json.compare?_swap, fun _ => Json.compare?_self, fun _ _ => Json.compare?_eq_none,
    fun row place column operand order limit => ?_⟩
  dsimp only
  simp only [accepts_condition]
  refine ⟨Comparator.places_holds, fun h _ hc => Comparator.holds_of_incomparable h hc,
    Json.isNull_iff, rfl, fun hl => ?_⟩
  rw [Row.cell_of_length_le hl]
  rfl

/-- A number is found in a text with blanks around it and not in one that reads as `nan`, and where
a row has no cell it is null. -/
theorem comparisons_consistent_texts :
    (Json.compare? (.string " 1.0\t") (.string " 1.0\t") = some .eq) ∧
    ¬Json.Incomparable (.string " 1.0\t") (.nat 1) ∧
    Comparator.Places (fun c =>
      (Plan.mk [(1, ⟨"id", c, .nat 1⟩)] [] none).accepts [.bool true, .string " 1.0\t"]) ∧
    Json.Incomparable (.nat 1) (.string "-NaN") ∧
    (Plan.mk [(0, ⟨"id", .ne, .string "-NaN"⟩)] [] none).accepts [.nat 1] = false ∧
    (Plan.mk [(1, ⟨"id", .isNull, .null⟩)] [] none).accepts [.nat 1] = true := by
  obtain ⟨_, hself, hnone, hrows⟩ := comparisons_consistent
  have hc : ¬Json.Incomparable (.string " 1.0\t") (.nat 1) := by
    rw [← hnone]
    decide +kernel
  have hi : Json.Incomparable (.nat 1) (.string "-NaN") :=
    .numberText _ _ (.inr (by decide +kernel))
  obtain ⟨hplaces, -⟩ := hrows [.bool true, .string " 1.0\t"] 1 "id" (.nat 1) [] none
  obtain ⟨-, hsilent, -⟩ := hrows [.nat 1] 0 "id" (.string "-NaN") [] none
  obtain ⟨-, -, -, -, hshort⟩ := hrows [.nat 1] 1 "id" .null [] none
  exact ⟨hself _ nofun, hc, hplaces hc, hi, hsilent hi .ne rfl, hshort (Nat.le_refl 1)⟩

end Plan

end DbConsole
