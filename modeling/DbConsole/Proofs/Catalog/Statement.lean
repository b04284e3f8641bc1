import DbConsole.Proofs.Catalog.Lookup

namespace DbConsole

def Relation.core (r : Relation) : Relation := { r with description := none, options := .empty }

structure Relation.Redescribed (r r' : Relation) : Prop where
  core : r'.core = r.core
  description : r'.description = r.description ∨ r'.description ≠ some ""
  options : r'.options ≠ .empty → r.options ≠ .empty ∨ r.kind.hasParameters = true

/-- What a statement can make of a trigger; a new name is not that of another trigger of its
table. -/
structure Trigger.Redescribed (db : Database) (t t' : Trigger) : Prop where
  oid : t'.oid = t.oid
  tableOid : t'.tableOid = t.tableOid
  table : t'.table = t.table
  function : t'.function = t.function
  name : t'.name = t.name ∨ ¬db.triggerNameTaken t.tableOid t'.name (some t.oid)
  description : t'.description = t.description ∨ t'.description ≠ some ""

namespace Database

inductive Redescribed (db : Database) : Database → Prop where
  | relation (oid : Oid) (stored : StoredRelation) (r : Relation)
    (hf : db.relations.find? oid = some stored) (hr : stored.relation.Redescribed r) :
    Redescribed db (db.putRelation oid stored r)
  | trigger (oid : Oid) (t t' : Trigger) (hf : db.triggers.find? oid = some t)
    (ht : t.oid = oid → t.Redescribed db t') : Redescribed db (db.putTrigger oid t')

variable {db db' : Database}

theorem commentText_ne_empty (text : Option String) : commentText text ≠ some "" := by
  cases text with
  | none => simp [commentText]
  | some s => simp [commentText, Option.filter]

theorem redescribed_of_comment {target : CommentTarget} {text : Option String}
    (h : db.applyComment target text = .ok db') : db.Redescribed db' := by
  cases target with
  | relation oid kind name =>
    obtain ⟨r, hr, h⟩ := bind_eq_ok.mp h
    cases h
    obtain ⟨hf, _⟩ := relationAs_eq_ok.mp hr
    exact .relation oid r _ hf ⟨rfl, .inr (commentText_ne_empty text), .inl⟩
  | trigger oid name table =>
    obtain ⟨t, ht, h⟩ := bind_eq_ok.mp h
    cases h
    exact .trigger oid t _ (trigger_eq_ok.mp ht)
      fun _ => ⟨rfl, rfl, rfl, rfl, .inl rfl, .inr (commentText_ne_empty text)⟩

theorem redescribed_of_rename {oid : Oid} {name : String}
    (h : db.renameTrigger oid name = .ok db') : db.Redescribed db' := by
  obtain ⟨t, ht, h⟩ := bind_eq_ok.mp h
  dsimp only at h
  split at h
  · obtain ⟨table, _, h⟩ := bind_eq_ok.mp h
    cases h
  · next hn =>
    cases h
    refine .trigger oid t _ (trigger_eq_ok.mp ht) fun ho => ⟨rfl, rfl, rfl, rfl, .inr ?_, .inl rfl⟩
    rwa [ho]

theorem redescribed_of_setOptions {oid : Oid} {kind : RelationKind}
    {options : List (String × String)} (h : db.setOptions oid kind options = .ok db') :
    db.Redescribed db' := by
  obtain ⟨r, hr, h⟩ := bind_eq_ok.mp h
  obtain ⟨hf, rfl⟩ := relationAs_eq_ok.mp hr
  dsimp only at h
  split at h
  · next hk =>
    cases h
    exact .relation oid r _ hf ⟨rfl, .inl rfl, fun _ => .inr hk⟩
  · cases h

theorem foldl_erase_empty (names : List String) :
    names.foldl SortedMap.erase (.empty : StorageOptions) = .empty := by
  induction names with
  | nil => rfl
  | cons name names ih => exact ih

theorem redescribed_of_resetOptions {oid : Oid} {kind : RelationKind} {options : List String}
    (h : db.resetOptions oid kind options = .ok db') : db.Redescribed db' := by
  obtain ⟨r, hr, h⟩ := bind_eq_ok.mp h
  obtain ⟨hf, _⟩ := relationAs_eq_ok.mp hr
  cases h
  refine .relation oid r _ hf ⟨rfl, .inl rfl, fun hne => .inl ?_⟩
  intro he
  apply hne
  dsimp only
  rw [he, foldl_erase_empty]

theorem redescribed_of_apply {statement : Statement} (h : db.apply statement = .ok db') :
    db.Redescribed db' := by
  cases statement with
  | comment target text => exact redescribed_of_comment h
  | setTriggerMode oid trigger table mode =>
    obtain ⟨t, ht, h⟩ := bind_eq_ok.mp h
    cases h
    exact .trigger oid t _ (trigger_eq_ok.mp ht) fun _ => ⟨rfl, rfl, rfl, rfl, .inl rfl, .inl rfl⟩
  | renameTrigger oid table old new => exact redescribed_of_rename h
  | setOptions oid kind relation options => exact redescribed_of_setOptions h
  | resetOptions oid kind relation options => exact redescribed_of_resetOptions h

/-- What every statement preserves a list of statements preserves. -/
theorem applyAll_preserves {P : Database → Prop}
    (step : ∀ {db db' : Database}, P db → db.Redescribed db' → P db') {statements : List Statement}
    (h : db.applyAll statements = .ok db') (hp : P db) : P db' := by
  induction statements generalizing db with
  | nil =>
    cases h
    exact hp
  | cons statement rest ih =>
    obtain ⟨next, hn, h⟩ := bind_eq_ok.mp (show db.apply statement >>= _ = _ from h)
    exact ih h (step hp (redescribed_of_apply hn))

end Database

end DbConsole
