import DbConsole.Proofs.Sql.Statement
import DbConsole.Proofs.Update.Trigger

namespace DbConsole

open Sql Statement

/-- The text of a comment on a trigger of the name, of a change of its mode, or of a new name for
it. -/
inductive WritesTrigger (name : String) : String → Prop where
  | comment (rest : String) :
    WritesTrigger name ("COMMENT ON TRIGGER " ++ ident name ++ " ON " ++ rest)
  | setMode (table : QualifiedName) (mode : TriggerMode) :
    WritesTrigger name
      ("ALTER TABLE " ++ table.sql ++ " " ++ mode.clause ++ " TRIGGER " ++ ident name ++ ";")
  | rename (rest : String) :
    WritesTrigger name ("ALTER TRIGGER " ++ ident name ++ " ON " ++ rest)

inductive WritesAfter (name : String) : Opening → String → Prop where
  | comment (rest : String) : WritesAfter name (.comment none) (ident name ++ (" ON " ++ rest))
  | setMode (table : QualifiedName) (mode : TriggerMode) :
    WritesAfter name (.alter .table)
      (table.sql ++ ((Alteration.trigger mode).words ++ (ident name ++ ";")))
  | rename (rest : String) : WritesAfter name .renameTrigger (ident name ++ (" ON " ++ rest))

variable {name name' text : String}

theorem WritesTrigger.opening (h : WritesTrigger name text) :
    ∃ (o : Opening) (rest : String), text = o.words ++ rest ∧ WritesAfter name o rest := by
  cases h with
  | comment rest =>
    refine ⟨_, _, ?_, .comment rest⟩
    rw [← String.append_assoc, ← String.append_assoc]
    rfl
  | setMode table mode =>
    have hwords : "ALTER TABLE " = (Opening.alter .table).words := by decide
    refine ⟨_, _, ?_, .setMode table mode⟩
    simp only [Alteration.words, String.append_assoc, hwords]
  | rename rest =>
    refine ⟨_, _, ?_, .rename rest⟩
    rw [← String.append_assoc, ← String.append_assoc]
    rfl

theorem WritesTrigger.unique (h : WritesTrigger name text) (h' : WritesTrigger name' text) :
    name = name' := by
  obtain ⟨o, rest, rfl, hw⟩ := h.opening
  obtain ⟨o', rest', he, hw'⟩ := h'.opening
  have he := congrArg String.toList he
  rw [String.toList_append, String.toList_append] at he
  obtain ⟨rfl, hrest⟩ := Opening.selfDelimiting (p := fun _ => True) (fun _ _ => trivial)
    (fun _ _ => trivial) he
  have hrest := String.toList_inj.mp hrest
  have hon : ∀ {t : String}, FollowsName (" ON " ++ t) :=
    followsName_append (by decide) (by decide)
  cases hw with
  | comment | rename =>
    cases hw'
    exact (ident_inj hon hon hrest).1
  | setMode =>
    cases hw'
    exact (ident_inj followsName_end followsName_end (alteration_inj hrest).2.2).1

theorem writes_comment (oid : Oid) (name : String) (table : QualifiedName)
    (text : Option String) :
    WritesTrigger name (Statement.comment (.trigger oid name table) text).sql := by
  have hwords : (Opening.comment none).words = "COMMENT ON TRIGGER " := by decide
  have hsql : (Statement.comment (.trigger oid name table) text).sql =
      "COMMENT ON TRIGGER " ++ ident name ++ " ON " ++ (table.sql ++ commentRest text) := by
    simp only [sql_eq, opening, Statement.rest, hwords, String.append_assoc]
  rw [hsql]
  exact .comment _

theorem writes_renameTrigger (oid : Oid) (table : QualifiedName) (old new : String) :
    WritesTrigger old (Statement.renameTrigger oid table old new).sql := by
  have hsql : (Statement.renameTrigger oid table old new).sql =
      "ALTER TRIGGER " ++ ident old ++ " ON " ++
        (table.sql ++ (" RENAME TO " ++ (ident new ++ ";"))) := by
    simp only [sql_eq, opening, Statement.rest, Opening.words, String.append_assoc]
  rw [hsql]
  exact .rename _

theorem Statement.foldl_adjust_name (statements : List Statement) (t : Trigger) :
    (statements.foldl adjust t).name = t.name := by
  induction statements generalizing t with
  | nil => rfl
  | cons s rest ih =>
    rw [List.foldl_cons, ih]
    cases s <;> rfl

namespace TriggerUpdate

variable {u : TriggerUpdate} {t : Trigger} {db db' : Database} {s : Statement}
  {before after : List Statement}

theorem writes_finalName (h : s ∈ u.commentStatements t ++ u.modeStatements t) :
    WritesTrigger (u.finalName t) s.sql := by
  obtain h | h := List.mem_append.mp h
  · obtain ⟨text, _, rfl⟩ := List.mem_map.mp h
    exact writes_comment _ _ _ _
  · obtain ⟨mode, _, rfl⟩ := List.mem_map.mp h
    exact .setMode _ _

theorem writes_kept {t₀ : Trigger} (hf : db.triggers.find? t.oid = some t₀)
    (hn : t₀.name = u.finalName t)
    (hs : before ++ s :: after = u.commentStatements t ++ u.modeStatements t)
    (ha : db.applyAll before = .ok db') :
    ∃ t', db'.triggers.find? t.oid = some t' ∧ WritesTrigger t'.name s.sql := by
  have hmem : ∀ s' ∈ before ++ s :: after, s' ∈ u.commentStatements t ++ u.modeStatements t :=
    fun _ hs' => hs ▸ hs'
  rw [Database.applyAll_adjusts hf fun s' hs' =>
    adjusts_of_mem (hmem s' (List.mem_append_left _ hs'))] at ha
  cases ha
  refine ⟨_, db.find?_putTrigger t.oid _, ?_⟩
  rw [foldl_adjust_name, hn]
  exact writes_finalName (hmem s (by simp))

/-- Each statement writes the name that the trigger has when it is the statement's turn. -/
theorem writes_current {statements : List Statement} (h : u.statements t = .ok statements)
    (hs : statements = before ++ s :: after) (hf : db.triggers.find? t.oid = some t)
    (ha : db.applyAll before = .ok db') :
    ∃ t', db'.triggers.find? t.oid = some t' ∧ WritesTrigger t'.name s.sql := by
  obtain ⟨-, hsplit⟩ := statements_eq_ok.mp h
  rw [hs] at hsplit
  by_cases hn : u.finalName t = t.name
  · rw [renameStatements, if_pos hn, List.nil_append] at hsplit
    exact writes_kept hf hn.symm hsplit ha
  · rw [renameStatements, if_neg hn, List.singleton_append] at hsplit
    cases before with
    | nil =>
      -- The name is still the old one while the statement that changes it is carried out.
      obtain ⟨rfl, -⟩ := List.cons.inj hsplit
      cases ha
      exact ⟨t, hf, writes_renameTrigger _ _ _ _⟩
    | cons first before =>
      obtain ⟨rfl, hrest⟩ := List.cons.inj hsplit
      obtain ⟨renamed, hr, ha⟩ := bind_eq_ok.mp ha
      obtain ⟨-, rfl⟩ := (Database.renameTrigger_eq_ok hf _).mp hr
      exact writes_kept (db.find?_putTrigger t.oid _) rfl hrest ha

theorem statements_write (hf : db.triggers.find? t.oid = some t) (hu : ¬u.Unnames) :
    ∃ statements, u.statements t = .ok statements ∧
      ∀ before s after, statements = before ++ s :: after →
      ∀ db', db.applyAll before = .ok db' → ∃ t', db'.triggers.find? t.oid = some t' ∧
        ∀ name, WritesTrigger name s.sql ↔ name = t'.name := by
  refine ⟨_, statements_named hu, fun before s after hs db' ha => ?_⟩
  obtain ⟨t', hfound, hw⟩ := writes_current (statements_named hu) hs hf ha
  exact ⟨t', hfound, fun name => ⟨fun hname => hname.unique hw, fun he => he ▸ hw⟩⟩

end TriggerUpdate

end DbConsole
