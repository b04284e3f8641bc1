import DbConsole.Proofs.Decimal.Written
import DbConsole.Proofs.Json.Spelling
import DbConsole.Proofs.Update.Relation
import DbConsole.Wire.Update

namespace DbConsole

theorem exists_last {α : Type} {P : α → Prop} {l : List α} (h : ∃ a ∈ l, P a) :
    ∃ before a after, l = before ++ a :: after ∧ P a ∧ ∀ b ∈ after, ¬P b := by
  induction l with
  | nil =>
    obtain ⟨a, ha, _⟩ := h
    cases ha
  | cons first rest ih =>
    by_cases hr : ∃ a ∈ rest, P a
    · obtain ⟨before, a, after, rfl, ha, hlast⟩ := ih hr
      exact ⟨first :: before, a, after, rfl, ha, hlast⟩
    · obtain ⟨a, ha, hp⟩ := h
      rcases List.mem_cons.mp ha with rfl | ha
      · exact ⟨[], a, rest, rfl, hp, fun b hb hpb => hr ⟨b, hb, hpb⟩⟩
      · exact absurd ⟨a, ha, hp⟩ hr

/-- A text as an update gives it to a parameter: it spells a number and has no blanks around it. -/
def VacuumGroup.IsValue (v : String) : Prop := Text.trim v = v ∧ (FloatReading.ofString? v).isSome

/-- Options of a group with values that an update gives them. -/
structure VacuumGroup.Written (g : VacuumGroup) (options : StorageOptions) : Prop where
  switch : ∀ v, options.find? g.switch = some v → v = "true" ∨ v = "false"
  parameter : ∀ p ∈ g.parameters, ∀ v, options.find? (g.optionName p) = some v → IsValue v

theorem VacuumEntry.Accepted.isValue {g : VacuumGroup} {e : VacuumEntry} (h : e.Accepted g)
    {v : String} (hv : e.text? = some v) : VacuumGroup.IsValue v := by
  unfold text? at hv
  rcases h.value with he | ⟨n, he⟩ | ⟨s, he, hs⟩ <;> simp only [he] at hv <;> cases hv
  · exact ⟨n.trim_text, n.reads⟩
  · exact ⟨Text.trim_trim s, hs⟩

namespace VacuumGroup

variable {g : VacuumGroup} {r : VacuumRequest} {old new : StorageOptions}

theorem written_empty (g : VacuumGroup) : g.Written .empty := ⟨nofun, nofun⟩

theorem Written.settles (h : g.Written old) (hr : r.Accepted g) (hs : r.Settles g old new) :
    g.Written new := by
  by_cases hc : r.custom = some false
  · refine ⟨fun v hv => ?_, fun p hp v hv => ?_⟩
    · rw [hs.reset hc _ (.head _)] at hv
      cases hv
    · rw [hs.reset hc _ (g.optionName_mem_options hp)] at hv
      cases hv
  have hentries := hr.resolve_left hc
  refine ⟨fun v hv => ?_, fun p hp v hv => ?_⟩
  · cases he : r.enabled with
    | none =>
      rw [hs.unswitched hc he] at hv
      exact h.switch v hv
    | some b =>
      rw [hs.switched hc b he] at hv
      cases hv
      cases b
      · exact .inr rfl
      · exact .inl rfl
  · by_cases hn : ∃ e ∈ r.changed, e.name = p
    · obtain ⟨before, e, after, hl, rfl, hlast⟩ := exists_last hn
      by_cases hnull : ∃ e' ∈ r.changed, e'.name = e.name ∧ e'.value = .null
      · obtain ⟨e', he', hname, hvalue⟩ := hnull
        rw [← hname, hs.cleared hc e' he' hvalue] at hv
        cases hv
      · rw [hs.set hc before e after hl (fun e' he' hname hvalue => hnull ⟨e', he', hname, hvalue⟩)
          hlast] at hv
        exact (hentries e (by simp [hl])).isValue hv
    · rw [hs.kept hc p hp fun e he hname => hn ⟨e, he, hname⟩] at hv
      exact h.parameter p hp v hv

end VacuumGroup

def VacuumProperties.request (p : VacuumProperties) : VacuumRequest :=
  ⟨some p.custom, p.enabled, p.entries⟩

def RelationProperties.update (p : RelationProperties) : RelationUpdate :=
  ⟨p.relation.description, p.table.request, p.toast.request⟩

namespace VacuumProperties

variable {g : VacuumGroup} {start : String} {options new : StorageOptions}

theorem accepted_request (h : g.Written options) :
    (ofOptions options g start).request.Accepted g := by
  refine .inr fun e he => ?_
  obtain ⟨p, hp, rfl⟩ := List.mem_map.mp he
  refine ⟨hp, ?_⟩
  cases hv : options.find? (g.optionName p) with
  | none => exact .inl rfl
  | some v =>
    obtain ⟨htrim, hreads⟩ := h.parameter p hp v hv
    exact .inr (.inr ⟨v, rfl, by rwa [htrim]⟩)

theorem find?_of_not_custom (hstart : ∀ name ∈ g.options, name.startsWith start = true)
    (hc : (ofOptions options g start).custom = false) {name : String} (hn : name ∈ g.options) :
    options.find? name = none := by
  rw [SortedMap.find?_eq_none]
  intro hk
  have hany : options.keys.any (·.startsWith start) = true :=
    List.any_eq_true.mpr ⟨name, hk, hstart name hn⟩
  rw [ofOptions] at hc
  exact absurd (hany.symm.trans hc) (by decide)

def entry (options : StorageOptions) (g : VacuumGroup) (p : String) : VacuumEntry :=
  ⟨p, .option .string (options.find? (g.optionName p))⟩

theorem find?_parameter_of_settles (hnodup : g.parameters.Nodup) (h : g.Written options)
    (hc : (ofOptions options g start).request.custom ≠ some false)
    (hs : (ofOptions options g start).request.Settles g options new) {p : String}
    (hp : p ∈ g.parameters) : new.find? (g.optionName p) = options.find? (g.optionName p) := by
  cases hv : options.find? (g.optionName p) with
  | none =>
    have hnull : (entry options g p).value = .null := by simp [entry, hv, Json.option]
    exact hs.cleared hc (entry options g p) (List.mem_map_of_mem hp) hnull
  | some v =>
    have htext : (entry options g p).text? = some v := by
      simp [entry, VacuumEntry.text?, hv, Json.option, (h.parameter p hp v hv).1]
    rw [← htext]
    obtain ⟨before, after, hl⟩ := List.append_of_mem hp
    -- There is one entry for each parameter, so that this one is the last for its own.
    refine hs.set hc (before.map (entry options g)) (entry options g p)
      (after.map (entry options g)) ?_ ?_ ?_
    · change g.parameters.map (entry options g) = _
      rw [hl, List.map_append, List.map_cons]
    · rintro e he hname
      obtain ⟨p', _, rfl⟩ := List.mem_map.mp he
      have hp' : p' = p := hname
      simp [hp', hv, Json.option]
    · rintro e he hname
      obtain ⟨p', hafter, rfl⟩ := List.mem_map.mp he
      have hp' : p' = p := hname
      rw [hl] at hnodup
      exact (List.nodup_cons.mp (List.nodup_append.mp hnodup).2.1).1 (hp' ▸ hafter)

theorem find?_of_settles (hstart : ∀ name ∈ g.options, name.startsWith start = true)
    (hnodup : g.parameters.Nodup) (h : g.Written options)
    (hs : (ofOptions options g start).request.Settles g options new) {name : String}
    (hn : name ∈ g.options) : new.find? name = options.find? name := by
  cases hc : (ofOptions options g start).custom with
  | false =>
    rw [hs.reset (congrArg some hc) name hn, find?_of_not_custom hstart hc hn]
  | true =>
    have hcustom : (ofOptions options g start).request.custom ≠ some false := by
      simp [request, hc]
    rcases List.mem_cons.mp hn with rfl | hn
    · cases hv : options.find? g.switch with
      | none => rw [hs.unswitched hcustom (by simp [request, ofOptions, hv]), hv]
      | some v =>
        rw [hs.switched hcustom (v = "true") (by simp [request, ofOptions, hv])]
        rcases h.switch v hv with rfl | rfl <;> rfl
    · obtain ⟨p, hp, rfl⟩ := List.mem_map.mp hn
      exact find?_parameter_of_settles hnodup h hcustom hs hp

end VacuumProperties

namespace RelationProperties

variable {r : Relation}

theorem accepted_update (htable : VacuumGroup.table.Written r.options)
    (htoast : VacuumGroup.toast.Written r.options) : (ofRelation r).update.Accepted :=
  ⟨VacuumProperties.accepted_request htable, VacuumProperties.accepted_request htoast⟩

/-- A relation is what it was after its properties have been sent back. -/
theorem rewritten_update (htable : VacuumGroup.table.Written r.options)
    (htoast : VacuumGroup.toast.Written r.options) (hd : r.description ≠ some "") :
    (ofRelation r).update.rewritten r = r := by
  have hs := RelationUpdate.settles_rewritten (accepted_update htable htoast) r
  have hoptions : ((ofRelation r).update.rewritten r).options = r.options := by
    refine SortedMap.ext_find? fun name => ?_
    by_cases ht : name ∈ VacuumGroup.table.options
    · exact VacuumProperties.find?_of_settles (by decide +kernel) (by decide +kernel) htable
        hs.table ht
    by_cases ho : name ∈ VacuumGroup.toast.options
    · exact VacuumProperties.find?_of_settles (by decide +kernel) (by decide +kernel) htoast
        hs.toast ho
    exact hs.others name ht ho
  have hdescription : ((ofRelation r).update.rewritten r).description = r.description := by
    cases hr : r.description with
    | none => rw [hs.undescribed hr, hr]
    | some text =>
      have hne : text ≠ "" := fun he => hd (he ▸ hr)
      rw [hs.described text hr, if_neg hne]
  rw [Relation.eq_of_core hs.core, hdescription, hoptions]

end RelationProperties

/-- What is shown of a relation, as a body that sends its properties back. -/
def Json.sentBack (data : Json) : Json :=
  let shown (name : String) : Json := (data.get? name).getD .null
  .object [("description", shown "description"),
    ("autovacuum_custom", shown "autovacuum_custom"),
    ("autovacuum_enabled", shown "autovacuum_enabled"),
    ("toast_autovacuum", shown "toast_autovacuum"),
    ("toast_autovacuum_enabled", shown "toast_autovacuum_enabled"),
    ("vacuum_table", .object [("changed", shown "vacuum_table")]),
    ("vacuum_toast", .object [("changed", shown "vacuum_toast")])]

theorem Json.Numberless.option {α : Type} {encode : α → Json} {depth : Nat}
    (h : ∀ a, (encode a).Numberless depth) (value : Option α) :
    (Json.option encode value).Numberless depth := by
  cases value with
  | none => exact .null depth
  | some a => exact h a

def VacuumEntry.Shown (e : VacuumEntry) : Prop := ∃ text, e.value = .option .string text

theorem VacuumEntry.Shown.read? {e : VacuumEntry} (h : e.Shown) :
    VacuumEntry.read? e.toJson.source = some e := by
  obtain ⟨name, value⟩ := e
  obtain ⟨text, rfl⟩ := h
  cases text <;> rfl

theorem VacuumEntry.Shown.numberless {e : VacuumEntry} (h : e.Shown) : e.toJson.Numberless 1 := by
  obtain ⟨name, value⟩ := e
  obtain ⟨text, rfl⟩ := h
  refine .object 0 _ ?_
  simp only [List.forall_mem_cons]
  exact ⟨.string 0 name, .option (.string 0) text, nofun⟩

namespace VacuumProperties

def changes (p : VacuumProperties) : Json :=
  .object [("changed", .array (p.entries.map (·.toJson)))]

variable {p : VacuumProperties}

theorem shown_ofOptions {options : StorageOptions} {g : VacuumGroup} {start : String} :
    ∀ e ∈ (ofOptions options g start).entries, e.Shown := by
  intro e he
  obtain ⟨name, _, rfl⟩ := List.mem_map.mp he
  exact ⟨_, rfl⟩

theorem readChanged?_changes (h : ∀ e ∈ p.entries, e.Shown) :
    VacuumEntry.readChanged? p.changes.source = some p.entries := by
  have hentries : ∀ entries : List VacuumEntry, (∀ e ∈ entries, e.Shown) →
      (Json.itemSources (entries.map (·.toJson))).mapM VacuumEntry.read? = some entries := by
    intro entries h
    induction entries with
    | nil => rfl
    | cons e rest ih =>
      rw [List.map_cons, Json.itemSources, List.mapM_cons, (h e (.head _)).read?,
        ih fun e' he => h e' (.tail _ he)]
      rfl
  exact hentries p.entries h

theorem numberless_changes (h : ∀ e ∈ p.entries, e.Shown) : p.changes.Numberless 3 := by
  refine .object 2 _ fun m hm => ?_
  rw [List.mem_singleton.mp hm]
  refine .array 1 _ fun j hj => ?_
  obtain ⟨e, he, rfl⟩ := List.mem_map.mp hj
  exact (h e he).numberless

end VacuumProperties

namespace RelationProperties

variable (p : RelationProperties)

def members : List (String × Json) :=
  [("description", .option .string p.relation.description),
    ("autovacuum_custom", .bool p.table.custom),
    ("autovacuum_enabled", .option .bool p.table.enabled),
    ("toast_autovacuum", .bool p.toast.custom),
    ("toast_autovacuum_enabled", .option .bool p.toast.enabled),
    ("vacuum_table", p.table.changes), ("vacuum_toast", p.toast.changes)]

theorem sentBack_toJson : p.toJson.sentBack = .object p.members := rfl

variable {p}

theorem read?_sentBack (htable : ∀ e ∈ p.table.entries, e.Shown)
    (htoast : ∀ e ∈ p.toast.entries, e.Shown) :
    RelationUpdate.read? p.toJson.sentBack.source = some p.update := by
  let f : Fields Source := ⟨p.members.map fun m => (m.1, m.2.source), false⟩
  have hf : Fields.read? ["description", "autovacuum_custom", "autovacuum_enabled",
      "toast_autovacuum", "toast_autovacuum_enabled", "vacuum_table", "vacuum_toast"]
      p.toJson.sentBack.source = some f := rfl
  have hbool (b : Option Bool) : Document.option? Document.bool?
      (Json.option .bool b).source = some b := by
    cases b <;> rfl
  have hdescription : f.optional? "description" Document.string? =
      some p.relation.description := by
    change Document.option? _ (Json.option .string p.relation.description).source = _
    cases p.relation.description <;> rfl
  have htableCustom : f.optional? "autovacuum_custom" Document.bool? =
      some (some p.table.custom) := rfl
  have htableEnabled : f.optional? "autovacuum_enabled" Document.bool? =
      some p.table.enabled := hbool _
  have htoastCustom : f.optional? "toast_autovacuum" Document.bool? =
      some (some p.toast.custom) := rfl
  have htoastEnabled : f.optional? "toast_autovacuum_enabled" Document.bool? =
      some p.toast.enabled := hbool _
  have htableChanged : f.withDefault? "vacuum_table" [] VacuumEntry.readChanged? =
      some p.table.entries := VacuumProperties.readChanged?_changes htable
  have htoastChanged : f.withDefault? "vacuum_toast" [] VacuumEntry.readChanged? =
      some p.toast.entries := VacuumProperties.readChanged?_changes htoast
  rw [RelationUpdate.read?, hf]
  simp only [Option.bind_eq_bind, Option.bind_some, hdescription, htableCustom, htableEnabled,
    htoastCustom, htoastEnabled, htableChanged, htoastChanged]
  rfl

theorem numberless_sentBack (htable : ∀ e ∈ p.table.entries, e.Shown)
    (htoast : ∀ e ∈ p.toast.entries, e.Shown) : p.toJson.sentBack.Numberless 4 := by
  rw [sentBack_toJson]
  refine .object 3 _ ?_
  simp only [members, List.forall_mem_cons]
  exact ⟨.option (.string 3) _, .bool 3 _, .option (.bool 3) _, .bool 3 _, .option (.bool 3) _,
    VacuumProperties.numberless_changes htable, VacuumProperties.numberless_changes htoast, nofun⟩
end RelationProperties

end DbConsole
