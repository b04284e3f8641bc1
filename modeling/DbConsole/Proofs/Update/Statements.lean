import DbConsole.Proofs.Decimal.Literal
import DbConsole.Proofs.Sql.Statement
import DbConsole.Proofs.Update.Options
import DbConsole.Proofs.Update.Trigger

namespace DbConsole

open Sql

theorem VacuumGroup.isBare_of_mem_options :
    ∀ name ∈ VacuumGroup.table.options ++ VacuumGroup.toast.options, IsBare name := by
  have hall : ∀ name ∈ VacuumGroup.table.options ++ VacuumGroup.toast.options,
      name.toList.all (· ∉ marks) = true := by
    decide +kernel
  exact fun name hn c hc => of_decide_eq_true (List.all_eq_true.mp (hall name hn) c hc)

/-- A text that an update gives to an option: a switch, a number, or a text that spells a number,
without the blanks around it. -/
inductive SettingText : String → Prop where
  | switch (b : Bool) : SettingText (if b then "true" else "false")
  | number (n : Number) : SettingText n.text
  | given (s : String) (h : (FloatReading.ofString? (Text.trim s)).isSome = true) :
    SettingText (Text.trim s)

theorem SettingText.isBare {value : String} (h : SettingText value) : IsBare value := by
  have hmarks : ∀ c ∈ marks, Token.isNumberChar c = false ∧ c.isAlpha = false := by
    simp [marks, Token.isNumberChar, Text.isDigit, Text.digit?]
  have hchars : ∀ {c : Char}, Token.isNumberChar c = true ∨ c.isAlpha = true → c ∉ marks := by
    intro c hc hm
    obtain ⟨hn, ha⟩ := hmarks c hm
    simp [hn, ha] at hc
  intro c hc
  refine hchars ?_
  cases h with
  | switch b =>
    have hletters : ∀ b : Bool, ∀ c ∈ (if b then "true" else "false").toList, c.isAlpha = true := by
      intro b
      cases b <;> simp
    exact .inr (hletters b c hc)
  | number n =>
    rw [Number.text, String.toList_ofList] at hc
    exact .inl (n.signedText_write.isNumberChar hc)
  | given s hs => exact FloatReading.chars_of_ofString? hs hc

namespace VacuumRequest

variable {r : VacuumRequest} {g : VacuumGroup} {c : OptionChanges}

theorem settingText_of_changes (h : r.changes g = .ok c) :
    c.Within g.options ∧ ∀ e ∈ c.set, SettingText e.2 := by
  have ha : r.Accepted g := by
    by_contra hn
    obtain ⟨error, he⟩ := changes_refused hn
    rw [he] at h
    cases h
  rw [changes_eq ha] at h
  cases h
  refine ⟨within_optionChanges ha, fun e he => ?_⟩
  unfold optionChanges at he
  split at he
  · cases he
  next hc =>
  obtain he | he := List.mem_append.mp he
  · obtain ⟨b, _, rfl⟩ := List.mem_map.mp he
    exact .switch b
  · obtain ⟨entry, hm, he⟩ := List.mem_filterMap.mp he
    obtain ⟨text, ht, rfl⟩ := Option.map_eq_some_iff.mp he
    unfold VacuumEntry.text? at ht
    obtain hv | ⟨n, hv⟩ | ⟨s, hv, hs⟩ := (ha.resolve_left hc entry hm).value
    · rw [hv] at ht
      cases ht
    · rw [hv] at ht
      cases ht
      exact .number n
    · rw [hv] at ht
      cases ht
      exact .given s hs

end VacuumRequest

namespace Statement

/-- A statement of an accepted update, of whatever relation or trigger. -/
inductive FromUpdate (s : Statement) : Prop where
  | relation (u : RelationUpdate) (r : Relation) (statements : List Statement)
    (h : u.statements r = .ok statements) (hs : s ∈ statements)
  | trigger (u : TriggerUpdate) (t : Trigger) (statements : List Statement)
    (h : u.statements t = .ok statements) (hs : s ∈ statements)

def settings : Statement → List (String × String)
  | .setOptions _ _ _ options => options
  | _ => []

def resettings : Statement → List String
  | .resetOptions _ _ _ options => options
  | _ => []

/-- Options with names from the two groups and with values as updates give them. -/
structure OptionsListed (s : Statement) : Prop where
  settings : ∀ e ∈ s.settings,
    e.1 ∈ VacuumGroup.table.options ++ VacuumGroup.toast.options ∧ SettingText e.2
  resettings : ∀ name ∈ s.resettings,
    name ∈ VacuumGroup.table.options ++ VacuumGroup.toast.options

theorem OptionsListed.isBare {s : Statement} (h : s.OptionsListed) :
    (∀ e ∈ s.settings, IsBare e.1 ∧ IsBare e.2) ∧ ∀ name ∈ s.resettings, IsBare name := by
  constructor
  · intro e he
    obtain ⟨hname, hvalue⟩ := h.settings e he
    exact ⟨VacuumGroup.isBare_of_mem_options e.1 hname, hvalue.isBare⟩
  · intro name hn
    exact VacuumGroup.isBare_of_mem_options name (h.resettings name hn)

namespace FromUpdate

variable {s : Statement}

theorem optionsListed (h : s.FromUpdate) : s.OptionsListed := by
  cases h with
  | relation u r statements h hs =>
    obtain ⟨table, toast, htable, htoast, hcases⟩ := RelationUpdate.mem_statements h hs
    obtain ⟨hwithin, htext⟩ := VacuumRequest.settingText_of_changes htable
    obtain ⟨hwithin', htext'⟩ := VacuumRequest.settingText_of_changes htoast
    obtain ⟨text, rfl⟩ | ⟨_, rfl⟩ | ⟨_, rfl⟩ := hcases
    · exact ⟨nofun, nofun⟩
    · refine ⟨fun e he => ?_, nofun⟩
      obtain he | he := List.mem_append.mp (show e ∈ table.set ++ toast.set from he)
      · exact ⟨List.mem_append_left _ (hwithin.set e he), htext e he⟩
      · exact ⟨List.mem_append_right _ (hwithin'.set e he), htext' e he⟩
    · refine ⟨nofun, fun name hn => ?_⟩
      obtain hn | hn := List.mem_append.mp (show name ∈ table.reset ++ toast.reset from hn)
      · exact List.mem_append_left _ (hwithin.reset name hn)
      · exact List.mem_append_right _ (hwithin'.reset name hn)
  | trigger u t statements h hs =>
    obtain ⟨new, rfl⟩ | hs := TriggerUpdate.mem_statements h hs
    · exact ⟨nofun, nofun⟩
    · cases hs <;> exact ⟨nofun, nofun⟩

theorem bareOptions (h : s.FromUpdate) : s.BareOptions := by
  have hbare := h.optionsListed.isBare
  cases h with
  | relation u r statements h hs =>
    obtain ⟨_, _, _, _, ⟨_, rfl⟩ | ⟨hne, rfl⟩ | ⟨hne, rfl⟩⟩ := RelationUpdate.mem_statements h hs
    · trivial
    · exact ⟨hne, hbare.1⟩
    · exact ⟨hne, hbare.2⟩
  | trigger u t statements h hs =>
    obtain ⟨_, rfl⟩ | hs := TriggerUpdate.mem_statements h hs
    · trivial
    · cases hs <;> trivial

end FromUpdate

variable {a : Statement}

/-- The text of a statement of an update says which statement it is, but for the number of the
object: what stands in it without quotes are names of the two groups and values that have no blank,
no comma, no bracket, no quote, no equals sign and no semicolon. -/
theorem sql_identifies (ha : a.FromUpdate) :
    (∀ b : Statement, b.FromUpdate → a.sql = b.sql → a.unnumbered = b.unnumbered) ∧
      a.OptionsListed ∧ (∀ e ∈ a.settings, IsBare e.1 ∧ IsBare e.2) ∧
      ∀ name ∈ a.resettings, IsBare name :=
  ⟨fun _ hb h => unnumbered_eq_of_sql ha.bareOptions hb.bareOptions h, ha.optionsListed,
    ha.optionsListed.isBare⟩

/-- Relations of one name with different numbers, for which an update sets the same options. -/
theorem sql_identifies_namesakes :
    let options := [("autovacuum_enabled", "false"), ("autovacuum_vacuum_scale_factor", "1e-2"),
      ("toast.autovacuum_freeze_max_age", "-5")]
    let a : Statement := .setOptions 7 .table ⟨"s", "x\" SET (y"⟩ options
    let b : Statement := .setOptions 8 .table ⟨"s", "x\" SET (y"⟩ options
    a.FromUpdate ∧ b.FromUpdate ∧ a.sql = b.sql ∧ a.unnumbered = b.unnumbered ∧
      ∀ e ∈ a.settings, IsBare e.1 ∧ IsBare e.2 := by
  intro options a b
  have hfrom : ∀ oid, (setOptions oid .table ⟨"s", "x\" SET (y"⟩ options).FromUpdate := fun oid =>
    .relation
      ⟨none, ⟨none, some false, [⟨"autovacuum_vacuum_scale_factor", .string " 1e-2 "⟩]⟩,
        ⟨none, none, [⟨"autovacuum_freeze_max_age", .number (.int (-5))⟩]⟩⟩
      ⟨oid, 1, ⟨"s", "x\" SET (y"⟩, .table, [], [], none, .empty⟩ _ rfl (.head _)
  obtain ⟨hidentifies, _, hbare, _⟩ := sql_identifies (hfrom 7)
  exact ⟨hfrom 7, hfrom 8, rfl, hidentifies b (hfrom 8) rfl, hbare⟩

end Statement

end DbConsole
