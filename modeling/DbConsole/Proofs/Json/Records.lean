import DbConsole.Json.Document
import DbConsole.Proofs.Json.Members
import Mathlib.Data.List.Forall2

namespace DbConsole

open Document

namespace Json

/-- What may stand in the place of a value; the value itself may. A record may leave out a field
that holds its default, also where it stands deep in a value. -/
structure Abridgement where
  Allows : Json → Json → Prop
  refl : ∀ j, Allows j j

namespace Abridgement

def whole : Abridgement := ⟨Eq, fun _ => rfl⟩

def items (r : Abridgement) : Abridgement where
  Allows
    | .array l, .array l' => List.Forall₂ r.Allows l l'
    | j, j' => j = j'
  refl j := by
    cases j with
    | array l => exact List.forall₂_same.mpr fun j _ => r.refl j
    | null | bool | number | string | object => rfl

/-- How a field is abridged, if anything is said of it. -/
def part (parts : List (String × Abridgement)) (key : String) : Abridgement :=
  (parts.lookup key).getD whole

/-- Members of an object are kept with an abridged value, or left out where they hold their
default. -/
inductive Members (defaults : List (String × Json)) (parts : List (String × Abridgement)) :
    List (String × Json) → List (String × Json) → Prop where
  | nil : Members defaults parts [] []
  | keep (key : String) (j j' : Json) (l l' : List (String × Json))
    (hj : (part parts key).Allows j j') (h : Members defaults parts l l') :
    Members defaults parts ((key, j) :: l) ((key, j') :: l')
  | leave (key : String) (j : Json) (l l' : List (String × Json))
    (hj : defaults.lookup key = some j) (h : Members defaults parts l l') :
    Members defaults parts ((key, j) :: l) l'

/-- A record with the fields that may be left out, each with its default. -/
def record (defaults : List (String × Json)) (parts : List (String × Abridgement)) :
    Abridgement where
  Allows
    | .object l, .object l' => Members defaults parts l l'
    | j, j' => j = j'
  refl j := by
    cases j with
    | object l =>
      induction l with
      | nil => exact .nil
      | cons m l ih => exact .keep m.1 m.2 m.2 l l ((part parts m.1).refl m.2) ih
    | null | bool | number | string | array => rfl

variable {defaults : List (String × Json)} {parts : List (String × Abridgement)}
  {l l' : List (String × Json)} {key : String} {j : Json}

theorem items_inv {r : Abridgement} {l : List Json} (h : r.items.Allows (.array l) j) :
    ∃ l', j = .array l' ∧ List.Forall₂ r.Allows l l' := by
  cases j with
  | array l' => exact ⟨l', rfl, h⟩
  | null | bool | number | string | object => cases h

theorem record_inv (h : (record defaults parts).Allows (.object l) j) :
    ∃ l', j = .object l' ∧ Members defaults parts l l' := by
  cases j with
  | object l' => exact ⟨l', rfl, h⟩
  | null | bool | number | string | array => cases h

theorem eq_of_part {j' : Json} (hp : parts.lookup key = none)
    (h : (part parts key).Allows j j') : j = j' := by
  rw [part, hp] at h
  exact h

theorem Members.keys_sublist (h : Members defaults parts l l') :
    (l'.map (·.1)).Sublist (l.map (·.1)) := by
  induction h with
  | nil => exact .slnil
  | keep key _ _ _ _ _ _ ih => exact ih.cons_cons key
  | leave key _ _ _ _ _ ih => exact ih.cons key

theorem Members.filter (keep : String × Json → Bool)
    (h : ∀ m ∈ l, keep m = false → defaults.lookup m.1 = some m.2) :
    Members defaults parts l (l.filter keep) := by
  induction l with
  | nil => exact .nil
  | cons m l ih =>
    have hl : Members defaults parts l (l.filter keep) := ih fun i hi => h i (.tail m hi)
    cases hm : keep m with
    | false =>
      rw [List.filter_cons_of_neg (by simp [hm])]
      exact .leave _ _ _ _ (h m (.head l) hm) hl
    | true =>
      rw [List.filter_cons_of_pos hm]
      exact .keep _ _ _ _ _ ((part parts m.1).refl m.2) hl

theorem Members.lookup (h : Members defaults parts l l') (hn : (l.map (·.1)).Nodup)
    (hj : l.lookup key = some j) :
    (∃ j', l'.lookup key = some j' ∧ (part parts key).Allows j j') ∨
      l'.lookup key = none ∧ defaults.lookup key = some j := by
  induction h with
  | nil => cases hj
  | keep k i i' l l' hi h ih =>
    rw [List.map_cons, List.nodup_cons] at hn
    rw [lookup_cons_ite] at hj ⊢
    by_cases hk : key = k
    · rw [if_pos hk] at hj ⊢
      obtain rfl := Option.some.inj hj
      subst hk
      exact .inl ⟨i', rfl, hi⟩
    · rw [if_neg hk] at hj ⊢
      exact ih hn.2 hj
  | leave k i l l' hi h ih =>
    rw [List.map_cons, List.nodup_cons] at hn
    rw [lookup_cons_ite] at hj
    by_cases hk : key = k
    · rw [if_pos hk] at hj
      obtain rfl := Option.some.inj hj
      subst hk
      exact .inr ⟨lookup_eq_none_of_not_mem fun hm => hn.1 (h.keys_sublist.subset hm), hi⟩
    · rw [if_neg hk] at hj
      exact ih hn.2 hj

theorem alternative?_of_allows {inner : Json}
    (h : (record [] parts).Allows (.object [(key, inner)]) j) :
    ∃ inner', alternative? j = some (key, inner') ∧ (part parts key).Allows inner inner' := by
  obtain ⟨l', rfl, hm⟩ := record_inv h
  cases hm with
  | keep _ _ inner' _ rest hj hrest =>
    cases hrest
    exact ⟨inner', rfl, hj⟩
  | leave _ _ _ _ hj => cases hj

end Abridgement

/-- A reader takes back every value from its JSON form, and from the abridged forms. -/
structure ReadsBack {α : Type} (encode : α → Json) (r : Abridgement) (read? : Json → Option α) :
    Prop where
  whole : ∀ a, read? (encode a) = some a
  abridged : ∀ a j, r.Allows (encode a) j → read? j = some a

theorem ReadsBack.of_allows {α : Type} {encode : α → Json} {r : Abridgement}
    {read? : Json → Option α} (h : ∀ {a j}, r.Allows (encode a) j → read? j = some a) :
    ReadsBack encode r read? :=
  ⟨fun a => h (r.refl (encode a)), fun _ _ => h⟩

end Json

open Json Abridgement

namespace Document

variable {α : Type} {item? : Json → Option α}

theorem readableKeys?_object (l : List (String × Json)) :
    readableKeys? (l.map fun m => (some m.1, m.2)) = some l := by
  unfold readableKeys?
  induction l with
  | nil => rfl
  | cons m l ih =>
    rw [List.map_cons, List.mapM_cons, ih]
    rfl

@[simp] theorem string?_string (s : String) : string? (Json.string s) = some s := rfl

@[simp] theorem bool?_bool (b : Bool) : bool? (Json.bool b) = some b := rfl

theorem natBelow?_nat {n bound : Nat} (h : n < bound) : natBelow? bound (Json.nat n) = some n := by
  have hn : (0 : Int) ≤ n ∧ (n : Int) < bound := ⟨Int.natCast_nonneg n, Int.ofNat_lt.mpr h⟩
  simp only [natBelow?, Json.nat, shape, if_pos hn, Int.toNat_natCast]

@[simp] theorem uint32?_uint32 (n : UInt32) : uint32? (Json.uint32 n) = some n := by
  rw [uint32?, Json.uint32, natBelow?_nat n.toNat_lt_size, Option.map_some, UInt32.ofNat_toNat]

@[simp] theorem uint64?_nat (n : UInt64) : uint64? (Json.nat n.toNat) = some n := by
  rw [uint64?, natBelow?_nat n.toNat_lt_size, Option.map_some, UInt64.ofNat_toNat]

theorem option?_of_ne_null {j : Json} (h : j ≠ .null) :
    option? item? j = (item? j).map some := by
  cases j with
  | null => exact absurd rfl h
  | bool | number | string | array | object => rfl

theorem option?_option {encode : α → Json} (h : ∀ a, item? (encode a) = some a)
    (hn : ∀ a, encode a ≠ .null) (o : Option α) :
    option? item? (Json.option encode o) = some o := by
  cases o with
  | none => rfl
  | some a => rw [Json.option, option?_of_ne_null (hn a), h, Option.map_some]

theorem eq_none_of_option_eq_null {encode : α → Json} (hn : ∀ a, encode a ≠ .null) {o : Option α}
    (h : Json.option encode o = .null) : o = none := by
  cases o with
  | none => rfl
  | some a => exact absurd h (hn a)

theorem list?_array {l : List α} {items : List Json}
    (h : List.Forall₂ (fun a j => item? j = some a) l items) :
    list? item? (Json.array items) = some l := by
  change items.mapM item? = some l
  induction h with
  | nil => rfl
  | cons ha _ ih =>
    rw [List.mapM_cons, ha, ih]
    rfl

theorem list?_of_allows {encode : α → Json} {r : Abridgement}
    (h : ∀ a j, r.Allows (encode a) j → item? j = some a) {l : List α} {j : Json}
    (hj : r.items.Allows (.array (l.map encode)) j) : list? item? j = some l := by
  obtain ⟨items, rfl, hitems⟩ := items_inv hj
  exact list?_array ((List.forall₂_map_left_iff.mp hitems).imp h)

@[simp] theorem list?_strings (l : List String) : list? string? (Json.strings l) = some l :=
  list?_array (List.forall₂_map_right_iff.mpr (List.forall₂_same.mpr fun _ _ => rfl))

theorem map?_object {encode : α → Json} (h : ∀ a, item? (encode a) = some a)
    (m : SortedMap String α) : map? item? (Json.object (m.map encode).entries) = some m := by
  have hitems : ∀ l : List (String × α), (l.map fun e => (e.1, encode e.2)).mapM
      (fun e => (item? e.2).map fun a => (e.1, a)) = some l := by
    intro l
    induction l with
    | nil => rfl
    | cons e l ih =>
      rw [List.map_cons, List.mapM_cons, ih]
      simp only [h]
      rfl
  change (readableKeys? ((m.map encode).entries.map fun e => (some e.1, e.2)) >>= _) = _
  rw [readableKeys?_object, Option.bind_eq_bind, Option.bind_some]
  refine (congrArg (· >>= _) (hitems m.entries)).trans ?_
  exact congrArg some m.ofList_entries

end Document

namespace Fields

variable {defaults : List (String × Json)} {parts : List (String × Abridgement)}
  {l : List (String × Json)} {key : String} {j : Json} {f : Fields Json} {α : Type} {a : α}
  {item? : Json → Option α}

structure Holds (f : Fields Json) (defaults : List (String × Json))
    (parts : List (String × Abridgement)) (l : List (String × Json)) : Prop where
  byPlace : f.byPlace = false
  members : Members defaults parts l f.given
  nodup : (l.map (·.1)).Nodup

theorem read?_of_allows (names : List String) (h : (record defaults parts).Allows (.object l) j)
    (hn : (l.map (·.1)).Nodup) (hs : l.map (·.1) ⊆ names) :
    ∃ f, read? names j = some f ∧ f.Holds defaults parts l := by
  obtain ⟨l', rfl, hm⟩ := record_inv h
  have hgiven : l'.filter (fun m => names.contains m.1) = l' := by
    refine List.filter_eq_self.mpr fun m hm' => ?_
    simpa using hs (hm.keys_sublist.subset (List.mem_map_of_mem hm'))
  have hnodup : (l'.map (·.1)).Nodup := hn.sublist hm.keys_sublist
  refine ⟨⟨l', false⟩, ?_, rfl, hm, hn⟩
  simp only [read?, Document.shape, readableKeys?_object, Option.bind_eq_bind, Option.bind_some,
    hgiven, guard, if_pos hnodup]
  rfl

theorem readAlternative?_of_allows (names : List String)
    (h : (record defaults parts).Allows (.object l) j) (hn : (l.map (·.1)).Nodup)
    (hs : l.map (·.1) ⊆ names) :
    ∃ f, readAlternative? names j = some f ∧ f.Holds defaults parts l := by
  obtain ⟨f, hf, hl⟩ := read?_of_allows names h hn hs
  refine ⟨f, ?_, hl⟩
  simp [readAlternative?, hf, hl.byPlace, guard]

theorem readAlternative?_whole (names : List String)
    (h : (record [] parts).Allows (.object [(key, .object l)]) j) (hp : parts.lookup key = none)
    (hn : (l.map (·.1)).Nodup) (hs : l.map (·.1) ⊆ names) :
    ∃ inner f, Document.alternative? j = some (key, inner) ∧
      readAlternative? names inner = some f ∧ f.Holds [] [] l := by
  obtain ⟨inner, hinner, hj⟩ := alternative?_of_allows h
  obtain rfl := eq_of_part hp hj
  obtain ⟨f, hf, hl⟩ := readAlternative?_of_allows names ((record [] []).refl _) hn hs
  exact ⟨_, f, hinner, hf, hl⟩

namespace Holds

theorem required {result : Option α} (h : f.Holds defaults parts l) (key : String)
    (hl : l.lookup key = some j) (hd : defaults.lookup key = none)
    (hitem : ∀ j', (part parts key).Allows j j' → item? j' = result) :
    f.required? key item? = result := by
  obtain ⟨j', hj', hp⟩ | ⟨-, hj⟩ := h.members.lookup h.nodup hl
  · simp only [required?, hj']
    exact hitem j' hp
  · cases hd.symm.trans hj

theorem kept (h : f.Holds defaults parts l) (key : String) (hl : l.lookup key = some j)
    (hd : defaults.lookup key = none) (hp : parts.lookup key = none) :
    f.required? key item? = item? j :=
  h.required key hl hd fun _ hj => congrArg item? (eq_of_part hp hj).symm

theorem withDefault {default : α} (h : f.Holds defaults parts l) (key : String)
    (hl : l.lookup key = some j) (hd : defaults.lookup key = some j → default = a)
    (hitem : ∀ j', (part parts key).Allows j j' → item? j' = some a) :
    f.withDefault? key default item? = some a := by
  obtain ⟨j', hj', hp⟩ | ⟨hnone, hj⟩ := h.members.lookup h.nodup hl
  · simp only [withDefault?, hj']
    exact hitem j' hp
  · simp only [withDefault?, hnone, hd hj]

theorem keptOrDefault {default : α} (h : f.Holds defaults parts l) (key : String)
    (hl : l.lookup key = some j) (hd : defaults.lookup key = some j → default = a)
    (hp : parts.lookup key = none) (hitem : item? j = some a) :
    f.withDefault? key default item? = some a :=
  h.withDefault key hl hd fun _ hj => eq_of_part hp hj ▸ hitem

theorem listWithDefault {encode : α → Json} {items : List α} {r : Abridgement}
    (h : f.Holds defaults parts l) (key : String)
    (hl : l.lookup key = some (.array (items.map encode)))
    (hd : defaults.lookup key = some (.array [])) (hp : parts.lookup key = some r.items)
    (hitem : ∀ a j, r.Allows (encode a) j → item? j = some a) :
    f.withDefault? key [] (list? item?) = some items := by
  refine h.withDefault key hl (fun he => ?_) fun j' hj => ?_
  · have hnil := Json.array.inj (Option.some.inj (hd.symm.trans he))
    exact (List.map_eq_nil_iff.mp hnil.symm).symm
  · rw [part, hp] at hj
    exact list?_of_allows hitem hj

variable {encode : α → Json} {o : Option α}

theorem optionWithDefault (h : f.Holds defaults parts l) (key : String)
    (hl : l.lookup key = some (.option encode o)) (hd : defaults.lookup key = some .null)
    (hp : parts.lookup key = none) (hitem : ∀ a, item? (encode a) = some a)
    (hn : ∀ a, encode a ≠ .null) : f.withDefault? key none (option? item?) = some o := by
  refine h.keptOrDefault key hl (fun he => ?_) hp (option?_option hitem hn o)
  exact (eq_none_of_option_eq_null hn (Option.some.inj (hd.symm.trans he)).symm).symm

theorem optional (h : f.Holds defaults parts l) (key : String)
    (hl : l.lookup key = some (.option encode o)) (hd : defaults.lookup key = some .null)
    (hp : parts.lookup key = none) (hitem : ∀ a, item? (encode a) = some a)
    (hn : ∀ a, encode a ≠ .null) : f.optional? key item? = some o := by
  have hoptional : f.optional? key item? = f.withDefault? key none (option? item?) := by
    unfold optional? withDefault?
    rw [h.byPlace]
    rfl
  rw [hoptional]
  exact h.optionWithDefault key hl hd hp hitem hn

end Holds

end Fields

end DbConsole
