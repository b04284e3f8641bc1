import DbConsole.Proofs.Console.Effects
import DbConsole.Proofs.Update.Properties

namespace DbConsole

/-- The options of both groups are what updates leave behind. -/
structure Relation.Written (r : Relation) : Prop where
  table : VacuumGroup.table.Written r.options
  toast : VacuumGroup.toast.Written r.options

theorem VacuumGroup.Written.erase {g : VacuumGroup} {options : StorageOptions}
    (h : g.Written options) (names : List String) :
    g.Written (names.foldl SortedMap.erase options) := by
  have hold : ∀ {name v}, (names.foldl SortedMap.erase options).find? name = some v →
      options.find? name = some v := by
    intro name v hv
    rw [OptionChanges.find?_foldl_erase] at hv
    split at hv
    · cases hv
    · exact hv
  exact ⟨fun v hv => h.switch v (hold hv), fun p hp v hv => h.parameter p hp v (hold hv)⟩

theorem Relation.Written.rewritten {r : Relation} (h : r.Written) {u : RelationUpdate}
    (hu : u.Accepted) : (u.rewritten r).Written := by
  have hs := RelationUpdate.settles_rewritten hu r
  exact ⟨h.table.settles hu.table hs.table, h.toast.settles hu.toast hs.toast⟩

def Statement.settings? : Statement → Option Oid
  | .setOptions oid .. => some oid
  | _ => none

namespace Database

def WrittenAt (db : Database) (oid : Oid) : Prop :=
  ∀ stored, db.relations.find? oid = some stored → stored.relation.Written

variable {db db' : Database} {oid o : Oid}

theorem writtenAt_putStored (h : db.WrittenAt oid) {s : StoredRelation}
    (hs : o = oid → s.relation.Written) : (db.putStored o s).WrittenAt oid := by
  intro stored hf
  simp only [putStored, SortedMap.find?_insert] at hf
  split at hf
  · next he =>
    cases hf
    exact hs he.symm
  · exact h stored hf

theorem writtenAt_grows (h : db.WrittenAt oid) (hd : db.Grows o db') : db'.WrittenAt oid := by
  cases hd with
  | schema | trigger => exact h
  | relation =>
    exact writtenAt_putStored h fun _ =>
      ⟨VacuumGroup.written_empty _, VacuumGroup.written_empty _⟩

theorem writtenAt_fills (h : db.WrittenAt oid) (hd : db.Fills db') : db'.WrittenAt oid := by
  cases hd with
  | refresh o r rows hr hk =>
    refine writtenAt_putStored h ?_
    rintro rfl
    exact h r hr
  | insert o r r' rows hr hi =>
    refine writtenAt_putStored h ?_
    rintro rfl
    rw [StoredRelation.relation_insert hi]
    exact h r hr

theorem writtenAt_apply (h : db.WrittenAt oid) {s : Statement} (hs : s.settings? ≠ some oid)
    (ha : db.apply s = .ok db') : db'.WrittenAt oid := by
  cases s with
  | comment target text =>
    cases target with
    | relation o kind name =>
      obtain ⟨r, hr, ha⟩ := bind_eq_ok.mp ha
      cases ha
      refine writtenAt_putStored h ?_
      rintro rfl
      have hold := h r (relationAs_eq_ok.mp hr).1
      exact ⟨hold.table, hold.toast⟩
    | trigger o name table =>
      obtain ⟨t, _, ha⟩ := bind_eq_ok.mp ha
      cases ha
      exact h
  | setTriggerMode o trigger table mode =>
    obtain ⟨t, _, ha⟩ := bind_eq_ok.mp ha
    cases ha
    exact h
  | renameTrigger o table old new =>
    obtain ⟨t, _, ha⟩ := bind_eq_ok.mp ha
    dsimp only at ha
    split at ha
    · obtain ⟨_, _, ha⟩ := bind_eq_ok.mp ha
      cases ha
    · cases ha
      exact h
  | setOptions o kind name options =>
    obtain ⟨r, hr, ha⟩ := bind_eq_ok.mp ha
    dsimp only at ha
    split at ha
    · cases ha
      refine writtenAt_putStored h ?_
      rintro rfl
      exact absurd rfl hs
    · cases ha
  | resetOptions o kind name options =>
    obtain ⟨r, hr, ha⟩ := bind_eq_ok.mp ha
    cases ha
    refine writtenAt_putStored h ?_
    rintro rfl
    have hold := h r (relationAs_eq_ok.mp hr).1
    exact ⟨hold.table.erase options, hold.toast.erase options⟩

theorem writtenAt_applyAll {statements : List Statement} (h : db.WrittenAt oid)
    (hs : ∀ s ∈ statements, s.settings? ≠ some oid) (ha : db.applyAll statements = .ok db') :
    db'.WrittenAt oid := by
  induction statements generalizing db with
  | nil =>
    cases ha
    exact h
  | cons s rest ih =>
    obtain ⟨next, hn, ha⟩ := bind_eq_ok.mp (show db.apply s >>= _ = _ from ha)
    exact ih (writtenAt_apply h (hs s (.head _)) hn) (fun s' hm => hs s' (.tail _ hm)) ha

end Database

namespace Catalog

/-- The relation that is found at a path, if one is, has options that come from updates. -/
def WrittenAt (c : Catalog) (p : DatabasePath) (oid : Oid) : Prop :=
  ∀ db, c.database? p = some db → db.WrittenAt oid

variable {c c' : Catalog} {p q : DatabasePath} {oid : Oid} {db db' : Database}

theorem writtenAt_builds (h : c.WrittenAt p oid) (hb : c.Builds c') : c'.WrittenAt p oid := by
  intro db' hp
  rcases database?_of_builds hb hp with hold | ⟨_, name, rfl⟩ | ⟨db, hdb, hg | hf⟩
  · exact h db' hold
  · exact nofun
  · exact Database.writtenAt_grows (h db hdb) hg
  · exact Database.writtenAt_fills (h db hdb) hf

theorem writtenAt_putDatabase (h : c.WrittenAt p oid) (hq : c.database? q = some db)
    (hw : q = p → db.WrittenAt oid → db'.WrittenAt oid) :
    (c.putDatabase q db').WrittenAt p oid := by
  intro db'' hp
  rcases database?_of_putDatabase hq hp with ⟨_, hold⟩ | ⟨rfl, rfl⟩
  · exact h db'' hold
  · exact hw rfl (h db hq)

end Catalog

namespace Console

open Http

variable {c : Console} {p : DatabasePath} {schemaOid oid : Oid} {step : Step} {kind : RelationKind}
  {db : Database} {stored : StoredRelation}

/-- A client sets options of a relation, and not by an update. -/
inductive SetsOptions (c : Console) (p : DatabasePath) (oid : Oid) : Step → Prop where
  | execute (link : String) (k : Connection) (statements : List Statement) (catalog : Catalog)
    (s : Statement) (hk : c.links.find? link = some k) (hp : k.database = p)
    (hx : c.catalog.execute k.database statements = .ok catalog) (hs : s ∈ statements)
    (ho : s.settings? = some oid) : SetsOptions c p oid (.execute link statements)

/-- In no step of a run does a client set options of a relation but by an update. -/
def OnlyUpdated (p : DatabasePath) (oid : Oid) (c : Console) : List Step → Prop
  | [] => True
  | step :: rest => ¬c.SetsOptions p oid step ∧ OnlyUpdated p oid (c.step step).2 rest

theorem writtenAt_effect {catalog : Catalog} (h : c.catalog.WrittenAt p oid)
    (he : c.Effect step catalog) (hn : ¬c.SetsOptions p oid step) : catalog.WrittenAt p oid := by
  cases he with
  | nothing => exact h
  | builds _ _ hb => exact Catalog.writtenAt_builds h hb
  | executes link k statements _ hk hx =>
    obtain ⟨db, hd, hput⟩ := bind_eq_ok.mp hx
    obtain ⟨db', ha, hput⟩ := bind_eq_ok.mp hput
    cases hput
    refine Catalog.writtenAt_putDatabase h (Catalog.database_eq_ok.mp hd) fun hp hw => ?_
    refine Database.writtenAt_applyAll hw (fun s hs ho => ?_) ha
    exact hn (.execute link k statements _ s hk hp hx hs ho)
  | relation r kind q schemaOid o db stored u hstored hu =>
    have hd := Catalog.database_eq_ok.mp hstored.serves.database
    refine Catalog.writtenAt_putDatabase h hd fun _ hw => Database.writtenAt_putStored hw ?_
    rintro rfl
    exact (hw stored hstored.found).rewritten hu
  | trigger r q schemaOid tableOid o db t t' ht =>
    have hd := Catalog.database_eq_ok.mp ht.serves.database
    exact Catalog.writtenAt_putDatabase h hd fun _ hw => hw

theorem writtenAt_run (ht : c.catalog.Tidy) (h : c.catalog.WrittenAt p oid) {steps : List Step}
    (ho : OnlyUpdated p oid c steps) : (c.run steps).catalog.WrittenAt p oid := by
  induction steps generalizing c with
  | nil => exact h
  | cons step rest ih =>
    have hw := writtenAt_effect h (effect_step ht step) ho.1
    exact ih (catalog_preserves Catalog.tidy_change [step] ht) hw ho.2

theorem writtenAt_start {start : Catalog} (hs : start = .empty ∨ start = .standard)
    (p : DatabasePath) (oid : Oid) : start.WrittenAt p oid := by
  have hempty : Catalog.empty.WrittenAt p oid := by
    rintro db ⟨⟩
  rcases hs with rfl | rfl
  · exact hempty
  · exact Catalog.standard_of_builds hempty Catalog.writtenAt_builds

theorem serve_look {uri body : String} (hr : Request.route? ⟨"GET", uri, body⟩ =
      some (.relation kind p schemaOid oid)) (hh : c.faults.Harmless)
    (h : c.catalog.Holds p schemaOid oid kind db stored) :
    c.serve ⟨"GET", uri, body⟩ =
      (.success (RelationProperties.ofRelation stored.relation).toJson, c) := by
  rw [serve_of_route hr]
  simp only [respondRoute, viewRelation_held hh h]
  rfl

theorem readBody_sentBack (r : Relation) :
    readBody RelationUpdate.read? (RelationProperties.ofRelation r).toJson.sentBack.text =
      .ok (RelationProperties.ofRelation r).update := by
  have hd : 4 < Source.depthLimit := by decide
  have hn := RelationProperties.numberless_sentBack (p := .ofRelation r)
    VacuumProperties.shown_ofOptions VacuumProperties.shown_ofOptions
  rw [readBody, Source.ofText?_text hn hd, Option.bind_some,
    RelationProperties.read?_sentBack VacuumProperties.shown_ofOptions
      VacuumProperties.shown_ofOptions]

/-- Without faults, what is shown of a table or a materialized view whose options come from updates
alone can be sent back, as it is shown or spelled in any other way: this is answered with 200 and
changes nothing. -/
theorem properties_sent_back (start : Catalog) (hs : start = .empty ∨ start = .standard)
    (pageSize : Nat) (steps : List Step) (p : DatabasePath) (oid : Oid)
    (ho : OnlyUpdated p oid (Console.new start pageSize) steps) (c : Console)
    (hc : c = (Console.new start pageSize).run steps) (hh : c.faults.Harmless) (uri body : String)
    (kind : RelationKind) (schemaOid : Oid)
    (hr : Request.route? ⟨"GET", uri, body⟩ = some (.relation kind p schemaOid oid))
    (db : Database) (stored : StoredRelation)
    (h : c.catalog.Holds p schemaOid oid kind db stored) :
    let properties := RelationProperties.ofRelation stored.relation
    c.serve ⟨"GET", uri, body⟩ = (.success properties.toJson, c) ∧
    readBody RelationUpdate.read? properties.toJson.sentBack.text = .ok properties.update ∧
    ∀ sent : String, readBody RelationUpdate.read? sent = .ok properties.update →
      c.serve ⟨"PUT", uri, sent⟩ =
        (.node oid (relationType kind) stored.relation.name.name, c) := by
  have htidy : c.catalog.Tidy := Evolved.tidy ⟨start, pageSize, steps, hs, hc⟩
  have hd := Catalog.database_eq_ok.mp h.serves.database
  have hw : stored.relation.Written := by
    have hstart : (Console.new start pageSize).catalog.Tidy :=
      Evolved.tidy ⟨start, pageSize, [], hs, rfl⟩
    have hrun := writtenAt_run hstart (writtenAt_start hs p oid) ho
    exact hrun db (hc ▸ hd) stored h.found
  refine ⟨serve_look hr hh h, readBody_sentBack stored.relation, fun sent hsent => ?_⟩
  have ho := (htidy p db hd).relationOid h.found
  have hu := RelationProperties.accepted_update hw.table hw.toast
  have hsame := RelationProperties.rewritten_update hw.table hw.toast
    ((htidy p db hd).relationComment h.found)
  rw [serve_update rfl (route?_put hr sent), respondRelationUpdate, hsent]
  simp only [changeRelation_accepted hh h ho (hasParameters_of_route hr) hu, hsame, ho,
    Database.putRelation_self h.found, putDatabase_self h.serves.database]

def updatedSteps : List Step :=
  [.createRelation ⟨1, 1, 16384⟩ ⟨"public", "t", .table, [⟨"id", "text", false⟩], ["id"]⟩,
    .serve {
      method := "PUT"
      uri := "/browser/table/obj/1/1/16384/16385/16386"
      body := "\x7b\"toast_autovacuum_enabled\":true,\"vacuum_table\":\x7b\"changed\":[\x7b\"name\":\"autovacuum_freeze_max_age\",\"value\":20\x7d]\x7d\x7d"
    }]

theorem properties_sent_back_updated : ∃ (c : Console) (data : Json),
    c = (Console.new .standard 1).run updatedSteps ∧
    (c.catalog.relation ⟨1, 1, 16384⟩ 16386).toOption.map (·.options.entries) =
      some [("autovacuum_freeze_max_age", "20"), ("toast.autovacuum_enabled", "true")] ∧
    c.serve ⟨"GET", "/browser/table/obj/1/1/16384/16385/16386", ""⟩ = (.success data, c) ∧
    c.serve ⟨"PUT", "/browser/table/obj/1/1/16384/16385/16386", data.sentBack.text⟩ =
      (.node 16386 "table" "t", c) := by
  have hroute : Request.route? ⟨"GET", "/browser/table/obj/1/1/16384/16385/16386", ""⟩ =
      some (.relation .table ⟨1, 1, 16384⟩ 16385 16386) := by
    decide +kernel
  have honly : OnlyUpdated ⟨1, 1, 16384⟩ 16386 (Console.new .standard 1) updatedSteps :=
    ⟨nofun, nofun, trivial⟩
  have hrelation : (((Console.new .standard 1).run updatedSteps).catalog.relation
      ⟨1, 1, 16384⟩ 16386).toOption.map
        (fun r => (r.options.entries, r.schemaOid, r.kind, r.name.name)) =
          some ([("autovacuum_freeze_max_age", "20"), ("toast.autovacuum_enabled", "true")],
            16385, .table, "t") := by
    decide +kernel
  have hreach : ((Console.new .standard 1).run updatedSteps).catalog.reach ⟨1, 1, 16384⟩ =
      .ok () := by
    decide +kernel
  have hh : ((Console.new .standard 1).run updatedSteps).faults.Harmless := by
    decide +kernel
  generalize hc : (Console.new .standard 1).run updatedSteps = c at *
  obtain ⟨r, hr, he⟩ := toOption_map_eq_some.mp hrelation
  simp only [Prod.mk.injEq] at he
  obtain ⟨hoptions, hschema, hkind, hname⟩ := he
  obtain ⟨db, stored, hholds, rfl⟩ := Catalog.exists_holds hreach hr
  rw [hschema, hkind] at hholds
  obtain ⟨hget, hread, hput⟩ := properties_sent_back .standard (.inr rfl) 1 updatedSteps
    ⟨1, 1, 16384⟩ 16386 honly c hc.symm hh _ _ .table 16385 hroute db stored hholds
  refine ⟨c, _, rfl, ?_, hget, ?_⟩
  · rw [hr, ← hoptions]
    rfl
  · rw [hput _ hread, hname]
    rfl

end Console

end DbConsole
