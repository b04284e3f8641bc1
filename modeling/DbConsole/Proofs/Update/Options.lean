import DbConsole.Proofs.Catalog.Lookup
import DbConsole.Update.Vacuum

namespace DbConsole

namespace OptionChanges

/-- The value that a list of options gives to a name; of several the last counts. -/
def lastValue? (set : List (String × String)) (name : String) : Option String :=
  ((set.filter (·.1 = name)).getLast?).map (·.2)

theorem lastValue?_append (set more : List (String × String)) (name : String) :
    lastValue? (set ++ more) name = (lastValue? more name).or (lastValue? set name) := by
  unfold lastValue?
  rw [List.filter_append, List.getLast?_append]
  cases (more.filter (·.1 = name)).getLast? <;> rfl

theorem lastValue?_eq_none {set : List (String × String)} {name : String}
    (h : ∀ e ∈ set, e.1 ≠ name) : lastValue? set name = .none := by
  unfold lastValue?
  rw [List.filter_eq_nil_iff.mpr fun e he => by simpa using h e he]
  rfl

theorem find?_foldl_insert (set : List (String × String)) (options : StorageOptions)
    (name : String) : (set.foldl (fun m e => m.insert e.1 e.2) options).find? name =
      (lastValue? set name).or (options.find? name) := by
  induction set generalizing options with
  | nil => rfl
  | cons e rest ih =>
    rw [List.foldl_cons, ih, ← List.singleton_append, lastValue?_append, Option.or_assoc]
    congr 1
    rw [SortedMap.find?_insert]
    by_cases he : e.1 = name
    · simp [lastValue?, he]
    · simp [lastValue?, he, Ne.symm he]

theorem find?_foldl_erase (reset : List String) (options : StorageOptions) (name : String) :
    (reset.foldl SortedMap.erase options).find? name =
      if name ∈ reset then .none else options.find? name := by
  induction reset generalizing options with
  | nil => rfl
  | cons first rest ih =>
    rw [List.foldl_cons, ih, SortedMap.find?_erase]
    by_cases hf : name = first
    · simp [hf]
    · simp [hf]

def apply (c : OptionChanges) (options : StorageOptions) : StorageOptions :=
  c.reset.foldl SortedMap.erase (c.set.foldl (fun m e => m.insert e.1 e.2) options)

theorem find?_apply (c : OptionChanges) (options : StorageOptions) (name : String) :
    (c.apply options).find? name =
      if name ∈ c.reset then .none else (lastValue? c.set name).or (options.find? name) := by
  rw [apply, find?_foldl_erase, find?_foldl_insert]

/-- All options that are changed are among certain ones. -/
structure Within (c : OptionChanges) (names : List String) : Prop where
  set : ∀ e ∈ c.set, e.1 ∈ names
  reset : ∀ name ∈ c.reset, name ∈ names

variable {a b : OptionChanges} {names : List String} {options : StorageOptions} {name : String}

@[simp] theorem set_append (a b : OptionChanges) : (a ++ b).set = a.set ++ b.set := rfl

@[simp] theorem reset_append (a b : OptionChanges) : (a ++ b).reset = a.reset ++ b.reset := rfl

theorem Within.lastValue?_eq_none (h : b.Within names) (hn : name ∉ names) :
    lastValue? b.set name = .none := by
  refine OptionChanges.lastValue?_eq_none fun e he => ?_
  rintro rfl
  exact hn (h.set e he)

theorem find?_apply_of_not_mem (h : b.Within names) (hn : name ∉ names) :
    (b.apply options).find? name = options.find? name := by
  rw [find?_apply, h.lastValue?_eq_none hn, if_neg fun hr => hn (h.reset name hr)]
  rfl

theorem find?_apply_append_left (h : b.Within names) (hn : name ∉ names) :
    ((a ++ b).apply options).find? name = (a.apply options).find? name := by
  have hr : name ∉ b.reset := fun hr => hn (h.reset name hr)
  simp only [find?_apply, set_append, reset_append, lastValue?_append, h.lastValue?_eq_none hn,
    List.mem_append, hr, or_false, Option.none_or]

theorem find?_apply_append_right (h : a.Within names) (hn : name ∉ names) :
    ((a ++ b).apply options).find? name = (b.apply options).find? name := by
  have hr : name ∉ a.reset := fun hr => hn (h.reset name hr)
  simp only [find?_apply, set_append, reset_append, lastValue?_append, h.lastValue?_eq_none hn,
    List.mem_append, hr, false_or, Option.or_none]

end OptionChanges

namespace VacuumGroup

variable {g : VacuumGroup} {a b : String}

theorem optionName_inj : g.optionName a = g.optionName b ↔ a = b := by
  simp [optionName]

theorem optionName_mem_options (g : VacuumGroup) (h : a ∈ g.parameters) :
    g.optionName a ∈ g.options := .tail _ (List.mem_map_of_mem h)

end VacuumGroup

namespace VacuumEntry

/-- An entry that names a parameter of the group, with `null`, a number, or a text that spells
one. -/
structure Accepted (g : VacuumGroup) (e : VacuumEntry) : Prop where
  name : e.name ∈ g.parameters
  value : e.value = .null ∨ (∃ n, e.value = .number n) ∨
    ∃ s, e.value = .string s ∧ (FloatReading.ofString? (Text.trim s)).isSome

def text? (e : VacuumEntry) : Option String :=
  match e.value with
  | .number n => some n.text
  | .string s => some (Text.trim s)
  | _ => none

theorem Accepted.text?_eq_none {g : VacuumGroup} {e : VacuumEntry} (h : e.Accepted g) :
    e.text? = none ↔ e.value = .null := by
  unfold text?
  rcases h.value with hv | ⟨n, hv⟩ | ⟨s, hv, _⟩ <;> simp [hv]

def setting? (g : VacuumGroup) (e : VacuumEntry) : Option (String × String) :=
  e.text?.map fun text => (g.optionName e.name, text)

def resetting? (g : VacuumGroup) (e : VacuumEntry) : Option String :=
  if e.text? = none then some (g.optionName e.name) else none

end VacuumEntry

namespace VacuumRequest

variable {g : VacuumGroup} {r : VacuumRequest} {e : VacuumEntry} {entries : List VacuumEntry}

theorem change_eq (h : e.Accepted g) :
    change g e = .ok ⟨(e.setting? g).toList, (e.resetting? g).toList⟩ := by
  have hn : g.parameters.contains e.name = true := by simpa using h.name
  unfold change VacuumEntry.setting? VacuumEntry.resetting? VacuumEntry.text?
  rw [if_pos hn]
  rcases h.value with hv | ⟨n, hv⟩ | ⟨s, hv, hs⟩
  · simp [hv]
  · simp [hv]
  · simp [hv, hs]

theorem change_refused (h : ¬e.Accepted g) : ∃ error, change g e = .error error := by
  unfold change
  split
  · next hn =>
    have hname : e.name ∈ g.parameters := by simpa using hn
    split
    · next hv => exact absurd ⟨hname, .inl hv⟩ h
    · next n hv => exact absurd ⟨hname, .inr (.inl ⟨n, hv⟩)⟩ h
    · next s hv =>
      split
      · next hs => exact absurd ⟨hname, .inr (.inr ⟨s, hv, hs⟩)⟩ h
      · exact ⟨_, rfl⟩
    · exact ⟨_, rfl⟩
  · exact ⟨_, rfl⟩

theorem changeAll_eq (h : ∀ e ∈ entries, e.Accepted g) : changeAll g entries =
    .ok ⟨entries.filterMap (·.setting? g), entries.filterMap (·.resetting? g)⟩ := by
  induction entries with
  | nil => rfl
  | cons e rest ih =>
    have hrest := ih fun e' he' => h e' (.tail _ he')
    refine bind_eq_ok.mpr ⟨_, change_eq (h e (.head _)), bind_eq_ok.mpr ⟨_, hrest, ?_⟩⟩
    cases hs : e.setting? g <;> cases hr : e.resetting? g <;>
      simp [hs, hr, pure, Except.pure] <;> rfl

theorem changeAll_refused (he : e ∈ entries) (h : ¬e.Accepted g) :
    ∃ error, changeAll g entries = .error error := by
  induction entries with
  | nil => cases he
  | cons first rest ih =>
    change ∃ error, change g first >>= _ = .error error
    cases hf : change g first with
    | error error => exact ⟨error, rfl⟩
    | ok c =>
      rcases List.mem_cons.mp he with rfl | he
      · obtain ⟨error, hr⟩ := change_refused h
        rw [hr] at hf
        cases hf
      · obtain ⟨error, hr⟩ := ih he
        refine ⟨error, ?_⟩
        change changeAll g rest >>= _ = _
        rw [hr]
        rfl

/-- A request that resets the whole group, or one with accepted entries only. -/
def Accepted (r : VacuumRequest) (g : VacuumGroup) : Prop :=
  r.custom = some false ∨ ∀ e ∈ r.changed, e.Accepted g

def switching (r : VacuumRequest) (g : VacuumGroup) : List (String × String) :=
  r.enabled.toList.map fun b => (g.switch, if b then "true" else "false")

def optionChanges (r : VacuumRequest) (g : VacuumGroup) : OptionChanges :=
  if r.custom = some false then ⟨[], g.options⟩
  else ⟨r.switching g ++ r.changed.filterMap (·.setting? g),
    r.changed.filterMap (·.resetting? g)⟩

theorem changes_eq (h : r.Accepted g) : r.changes g = .ok (r.optionChanges g) := by
  unfold changes optionChanges
  split
  · rfl
  · next hc => exact bind_eq_ok.mpr ⟨_, changeAll_eq (h.resolve_left hc), rfl⟩

theorem changes_refused (h : ¬r.Accepted g) : ∃ error, r.changes g = .error error := by
  obtain ⟨hc, hn⟩ := not_or.mp h
  obtain ⟨e, he, hn⟩ : ∃ e ∈ r.changed, ¬e.Accepted g := by simpa using hn
  obtain ⟨error, hr⟩ := changeAll_refused he hn
  refine ⟨error, ?_⟩
  unfold changes
  rw [if_neg hc, hr]
  rfl

theorem within_optionChanges (h : r.Accepted g) : (r.optionChanges g).Within g.options := by
  unfold optionChanges
  split
  · exact ⟨nofun, fun _ hn => hn⟩
  next hc =>
  have haccepted := h.resolve_left hc
  refine ⟨fun e he => ?_, fun name hn => ?_⟩
  · rcases List.mem_append.mp he with he | he
    · obtain ⟨b, _, rfl⟩ := List.mem_map.mp he
      exact .head _
    · obtain ⟨entry, hm, he⟩ := List.mem_filterMap.mp he
      obtain ⟨text, _, rfl⟩ := Option.map_eq_some_iff.mp he
      exact g.optionName_mem_options (haccepted entry hm).name
  · obtain ⟨entry, hm, he⟩ := List.mem_filterMap.mp hn
    unfold VacuumEntry.resetting? at he
    split at he
    · cases he
      exact g.optionName_mem_options (haccepted entry hm).name
    · cases he

/-- What a request makes of the options of a group: it resets all of them, or it sets the switch if
it says so, and each parameter to the value of the last entry for it, unless one of the entries for
it is `null`, which resets it. What it does not speak of stays. -/
structure Settles (r : VacuumRequest) (g : VacuumGroup) (old new : StorageOptions) : Prop where
  reset : r.custom = some false → ∀ name ∈ g.options, new.find? name = none
  switched : r.custom ≠ some false → ∀ b, r.enabled = some b →
    new.find? g.switch = some (if b then "true" else "false")
  unswitched : r.custom ≠ some false → r.enabled = none → new.find? g.switch = old.find? g.switch
  cleared : r.custom ≠ some false → ∀ e ∈ r.changed, e.value = .null →
    new.find? (g.optionName e.name) = none
  set : r.custom ≠ some false → ∀ before e after, r.changed = before ++ e :: after →
    (∀ e' ∈ r.changed, e'.name = e.name → e'.value ≠ .null) →
    (∀ e' ∈ after, e'.name ≠ e.name) → new.find? (g.optionName e.name) = e.text?
  kept : r.custom ≠ some false → ∀ p ∈ g.parameters, (∀ e ∈ r.changed, e.name ≠ p) →
    new.find? (g.optionName p) = old.find? (g.optionName p)

theorem setting?_of_name_ne {p : String} (h : ∀ e ∈ entries, e.name ≠ p) :
    OptionChanges.lastValue? (entries.filterMap (·.setting? g)) (g.optionName p) = none := by
  refine OptionChanges.lastValue?_eq_none fun o ho => ?_
  obtain ⟨e, he, ho⟩ := List.mem_filterMap.mp ho
  obtain ⟨text, _, rfl⟩ := Option.map_eq_some_iff.mp ho
  exact fun hn => h e he (g.optionName_inj.mp hn)

theorem lastValue?_settings {before after : List VacuumEntry}
    (hlast : ∀ e' ∈ after, e'.name ≠ e.name) {text : String} (ht : e.text? = some text) :
    OptionChanges.lastValue? ((before ++ e :: after).filterMap (·.setting? g))
      (g.optionName e.name) = some text := by
  have he : e.setting? g = some (g.optionName e.name, text) := by
    rw [VacuumEntry.setting?, ht]
    rfl
  rw [List.filterMap_append, OptionChanges.lastValue?_append, List.filterMap_cons_some he,
    ← List.singleton_append, OptionChanges.lastValue?_append, setting?_of_name_ne hlast]
  simp [OptionChanges.lastValue?]

theorem mem_resettings (h : ∀ e ∈ entries, e.Accepted g) {p : String} :
    g.optionName p ∈ entries.filterMap (·.resetting? g) ↔
      ∃ e ∈ entries, e.name = p ∧ e.value = .null := by
  rw [List.mem_filterMap]
  refine exists_congr fun e => and_congr_right fun he => ?_
  have hnull := (h e he).text?_eq_none
  cases ht : e.text? with
  | none => simp [VacuumEntry.resetting?, ht, hnull.mp ht, g.optionName_inj]
  | some text =>
    have hv : e.value ≠ .null := fun hv => by simp [hnull.mpr hv] at ht
    simp [VacuumEntry.resetting?, ht, hv]

section Accepted

variable (old : StorageOptions) (hg : "autovacuum_enabled" ∉ g.parameters)
  (hc : r.custom ≠ some false)

include hg hc

theorem find?_switch (h : ∀ e ∈ r.changed, e.Accepted g) :
    ((r.optionChanges g).apply old).find? g.switch =
      (OptionChanges.lastValue? (r.switching g) g.switch).or (old.find? g.switch) := by
  have hne : ∀ e ∈ r.changed, e.name ≠ "autovacuum_enabled" := by
    rintro e he hn
    exact hg (hn ▸ (h e he).name)
  have hsetting := setting?_of_name_ne (g := g) hne
  rw [OptionChanges.find?_apply, optionChanges, if_neg hc, OptionChanges.lastValue?_append,
    VacuumGroup.switch, hsetting, Option.none_or, if_neg]
  intro hm
  obtain ⟨e, he, hn, _⟩ := (mem_resettings h).mp hm
  exact hne e he hn

theorem find?_parameter {p : String} (hp : p ∈ g.parameters) :
    ((r.optionChanges g).apply old).find? (g.optionName p) =
      if g.optionName p ∈ r.changed.filterMap (·.resetting? g) then none
      else (OptionChanges.lastValue? (r.changed.filterMap (·.setting? g)) (g.optionName p)).or
        (old.find? (g.optionName p)) := by
  have hflag : OptionChanges.lastValue? (r.switching g) (g.optionName p) = none := by
    refine OptionChanges.lastValue?_eq_none fun o ho => ?_
    obtain ⟨b, _, rfl⟩ := List.mem_map.mp ho
    exact fun hn => hg (g.optionName_inj.mp hn ▸ hp)
  rw [OptionChanges.find?_apply, optionChanges, if_neg hc, OptionChanges.lastValue?_append, hflag,
    Option.or_none]

end Accepted

theorem settles_of_find? (hg : "autovacuum_enabled" ∉ g.parameters) (h : r.Accepted g)
    {old new : StorageOptions}
    (hf : ∀ name ∈ g.options, new.find? name = ((r.optionChanges g).apply old).find? name) :
    r.Settles g old new := by
  by_cases hc : r.custom = some false
  · refine ⟨fun _ name hn => ?_, fun hne => absurd hc hne, fun hne => absurd hc hne,
      fun hne => absurd hc hne, fun hne => absurd hc hne, fun hne => absurd hc hne⟩
    rw [hf name hn, OptionChanges.find?_apply, optionChanges, if_pos hc, if_pos hn]
  have hentries := h.resolve_left hc
  have hswitch := (hf _ (.head _)).trans (find?_switch old hg hc hentries)
  have hparameter := fun {p} (hp : p ∈ g.parameters) =>
    (hf _ (g.optionName_mem_options hp)).trans (find?_parameter old hg hc hp)
  refine ⟨fun he => absurd he hc, fun _ b hb => ?_, fun _ hb => ?_, fun _ e he hv => ?_,
    fun _ before e after hl hv hlast => ?_, fun _ p hp hne => ?_⟩
  · rw [hswitch, switching, hb]
    simp [OptionChanges.lastValue?]
  · rw [hswitch, switching, hb]
    rfl
  · have hreset := (mem_resettings hentries).mpr ⟨e, he, rfl, hv⟩
    rw [hparameter (hentries e he).name, if_pos hreset]
  · have he : e ∈ r.changed := by simp [hl]
    obtain ⟨text, ht⟩ := Option.ne_none_iff_exists'.mp
      (mt (hentries e he).text?_eq_none.mp (hv e he rfl))
    rw [hparameter (hentries e he).name, if_neg, hl, lastValue?_settings hlast ht, ht]
    · rfl
    · intro hm
      obtain ⟨e', he', hn, hnull⟩ := (mem_resettings hentries).mp hm
      exact hv e' he' hn hnull
  · rw [hparameter hp, if_neg, setting?_of_name_ne hne]
    · rfl
    · intro hm
      obtain ⟨e, he, hn, _⟩ := (mem_resettings hentries).mp hm
      exact hne e he hn

end VacuumRequest

end DbConsole
