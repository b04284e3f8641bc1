import DbConsole.Proofs.Catalog.Objects
import DbConsole.Update.Trigger
import Mathlib.Data.List.TakeWhile

namespace DbConsole

theorem Text.trimChars_eq_nil {s : List Char} : trimChars s = [] ↔ ∀ c ∈ s, isBlank c = true := by
  unfold trimChars
  rw [List.reverse_eq_nil_iff, List.dropWhile_eq_nil_iff]
  constructor
  · intro h
    rw [← List.dropWhile_eq_nil_iff]
    by_contra hne
    have hhead := List.head_dropWhile_not isBlank hne
    rw [h _ (List.mem_reverse.mpr (List.head_mem hne))] at hhead
    cases hhead
  · intro h c hc
    exact h c ((List.dropWhile_sublist isBlank).subset (List.mem_reverse.mp hc))

theorem Text.isBlankText_iff {s : String} : isBlankText s = true ↔ trim s = "" := by
  rw [isBlankText, List.all_eq_true, ← trimChars_eq_nil, trim, String.ofList_eq_empty_iff]

namespace Statement

inductive Adjusts (oid : Oid) : Statement → Prop where
  | comment (name : String) (table : QualifiedName) (text : Option String) :
    Adjusts oid (.comment (.trigger oid name table) text)
  | setTriggerMode (name : String) (table : QualifiedName) (mode : TriggerMode) :
    Adjusts oid (.setTriggerMode oid name table mode)

def adjust (t : Trigger) : Statement → Trigger
  | .comment _ text => { t with description := Database.commentText text }
  | .setTriggerMode _ _ _ mode => { t with mode }
  | .renameTrigger .. | .setOptions .. | .resetOptions .. => t

end Statement

namespace Database

variable {db db' : Database} {tableOid oid : Oid} {name : String} {t : Trigger}
  {stored : StoredRelation} {s : Statement} {statements : List Statement}

theorem putTrigger_self (hf : db.triggers.find? oid = some t) : db.putTrigger oid t = db := by
  have hi : db.triggers.insert oid t = db.triggers := SortedMap.insert_self hf
  rw [putTrigger, hi]

theorem putTrigger_putTrigger (db : Database) (oid : Oid) (t t' : Trigger) :
    (db.putTrigger oid t).putTrigger oid t' = db.putTrigger oid t' := by
  simp only [putTrigger, SortedMap.insert_insert]

theorem find?_putTrigger (db : Database) (oid : Oid) (t : Trigger) :
    (db.putTrigger oid t).triggers.find? oid = some t := (db.onlyTrigger_putTrigger oid t).trigger

theorem apply_adjusts (hf : db.triggers.find? oid = some t) (h : s.Adjusts oid) :
    db.apply s = .ok (db.putTrigger oid (s.adjust t)) := by
  cases h with
  | comment name table text => exact bind_eq_ok.mpr ⟨t, trigger_eq_ok.mpr hf, rfl⟩
  | setTriggerMode name table mode => exact bind_eq_ok.mpr ⟨t, trigger_eq_ok.mpr hf, rfl⟩

theorem applyAll_adjusts (hf : db.triggers.find? oid = some t)
    (h : ∀ s ∈ statements, s.Adjusts oid) :
    db.applyAll statements = .ok (db.putTrigger oid (statements.foldl Statement.adjust t)) := by
  induction statements generalizing db t with
  | nil =>
    rw [List.foldl_nil, putTrigger_self hf]
    rfl
  | cons first rest ih =>
    have hfirst := apply_adjusts hf (h first (.head _))
    have hrest := ih (db.find?_putTrigger oid (first.adjust t)) fun s hs => h s (.tail _ hs)
    rw [putTrigger_putTrigger] at hrest
    exact bind_eq_ok.mpr ⟨_, hfirst, hrest⟩

theorem renameTrigger_eq_ok (hf : db.triggers.find? oid = some t) (name : String) :
    db.renameTrigger oid name = .ok db' ↔
      ¬db.triggerNameTaken t.tableOid name (some oid) ∧
        db' = db.putTrigger oid { t with name } := by
  constructor
  · intro h
    obtain ⟨t', ht, h⟩ := bind_eq_ok.mp h
    cases (trigger_eq_ok.mp ht).symm.trans hf
    dsimp only at h
    split at h
    · obtain ⟨_, _, h⟩ := bind_eq_ok.mp h
      cases h
    · next hn =>
      cases h
      exact ⟨hn, rfl⟩
  · rintro ⟨hn, rfl⟩
    refine bind_eq_ok.mpr ⟨t, trigger_eq_ok.mpr hf, ?_⟩
    rw [if_neg hn]
    rfl

theorem triggerNameTaken_iff
    (ho : ∀ {o other}, db.triggers.find? o = some other → other.oid = o) :
    db.triggerNameTaken tableOid name (some oid) = true ↔ ∃ o other, o ≠ oid ∧
      db.triggers.find? o = some other ∧ other.tableOid = tableOid ∧ other.name = name := by
  unfold triggerNameTaken
  simp only [List.any_eq_true, SortedMap.mem_values, Bool.and_eq_true, decide_eq_true_eq]
  constructor
  · rintro ⟨other, ⟨o, hf⟩, ⟨htable, hname⟩, hne⟩
    refine ⟨o, other, ?_, hf, htable, hname⟩
    rintro rfl
    simp [ho hf] at hne
  · rintro ⟨o, other, hne, hf, htable, hname⟩
    refine ⟨other, ⟨o, hf⟩, ⟨htable, hname⟩, ?_⟩
    simpa [ho hf] using Ne.symm hne

theorem renameTrigger_taken (hf : db.triggers.find? oid = some t)
    (hr : db.relations.find? t.tableOid = some stored)
    (h : db.triggerNameTaken t.tableOid name (some oid) = true) :
    db.renameTrigger oid name =
      .error (.duplicate (.trigger name stored.relation.name.name)) := by
  simp only [renameTrigger, trigger_eq_ok.mpr hf, relation_eq_ok.mpr hr, bind, Except.bind, h,
    if_true]
  rfl

end Database

namespace TriggerUpdate

variable {u : TriggerUpdate} {t : Trigger} {db db' : Database} {stored : StoredRelation}

def rewritten (u : TriggerUpdate) (t : Trigger) : Trigger :=
  { t with
    name := u.finalName t
    mode := u.mode.getD t.mode
    description := match u.description with
      | some text => if text = "" then none else some text
      | none => t.description }

theorem finalName_rewritten (u : TriggerUpdate) (t : Trigger) :
    u.finalName (u.rewritten t) = (u.rewritten t).name := by
  cases hn : u.name <;> simp [finalName, rewritten, hn]

theorem rewritten_rewritten (u : TriggerUpdate) (t : Trigger) :
    u.rewritten (u.rewritten t) = u.rewritten t := by
  cases hn : u.name <;> cases hm : u.mode <;> cases hd : u.description <;>
    simp [rewritten, finalName, hn, hm, hd]

theorem statements_eq_ok {statements : List Statement} : u.statements t = .ok statements ↔
    u.name.any Text.isBlankText = false ∧
      statements = u.renameStatements t ++ (u.commentStatements t ++ u.modeStatements t) := by
  by_cases hb : u.name.any Text.isBlankText
  · simp [TriggerUpdate.statements, hb]
  · simp [TriggerUpdate.statements, hb, eq_comm]

/-- An update that is made again says nothing that it has not said before, and not all of that. -/
theorem statements_rewritten {statements : List Statement} (h : u.statements t = .ok statements) :
    u.statements (u.rewritten t) = .ok (u.commentStatements (u.rewritten t)) ∧
      (statements = [] → u.commentStatements (u.rewritten t) = []) := by
  obtain ⟨hb, rfl⟩ := statements_eq_ok.mp h
  have hrename : u.renameStatements (u.rewritten t) = [] := if_pos (u.finalName_rewritten t)
  have hmode : u.modeStatements (u.rewritten t) = [] := by
    cases hm : u.mode <;> simp [modeStatements, rewritten, hm, Option.filter]
  refine ⟨statements_eq_ok.mpr ⟨hb, ?_⟩, fun hn => ?_⟩
  · rw [hrename, hmode, List.nil_append, List.append_nil]
  · have hd : u.description = none := by
      simpa [commentStatements] using (List.append_eq_nil_iff.mp (List.append_eq_nil_iff.mp hn).2).1
    rw [commentStatements, hd]
    rfl

theorem adjusts_of_mem {s : Statement} (h : s ∈ u.commentStatements t ++ u.modeStatements t) :
    s.Adjusts t.oid := by
  obtain h | h := List.mem_append.mp h
  · obtain ⟨text, _, rfl⟩ := List.mem_map.mp h
    exact .comment _ _ _
  · obtain ⟨mode, _, rfl⟩ := List.mem_map.mp h
    exact .setTriggerMode _ _ _

theorem mem_statements {statements : List Statement} {s : Statement}
    (h : u.statements t = .ok statements) (hs : s ∈ statements) :
    (∃ new, s = .renameTrigger t.oid t.table t.name new) ∨ s.Adjusts t.oid := by
  obtain ⟨_, rfl⟩ := statements_eq_ok.mp h
  obtain hs | hs := List.mem_append.mp hs
  · unfold renameStatements at hs
    split at hs
    · cases hs
    · exact .inl ⟨_, List.mem_singleton.mp hs⟩
  · exact .inr (adjusts_of_mem hs)

theorem foldl_adjust (u : TriggerUpdate) (t : Trigger) :
    (u.commentStatements t ++ u.modeStatements t).foldl Statement.adjust
      { t with name := u.finalName t } = u.rewritten t := by
  have hcomment : (u.commentStatements t).foldl Statement.adjust
      { t with name := u.finalName t } = { u.rewritten t with mode := t.mode } := by
    cases hd : u.description with
    | none => simp [commentStatements, rewritten, hd]
    | some text =>
      by_cases ht : text = ""
      · simp [commentStatements, rewritten, hd, Statement.adjust, Database.commentText, ht]
      · simp [commentStatements, rewritten, hd, Statement.adjust, Database.commentText, ht,
          Option.filter]
  rw [List.foldl_append, hcomment]
  cases hm : u.mode with
  | none => simp [modeStatements, rewritten, hm]
  | some mode =>
    by_cases he : mode = t.mode
    · simp [modeStatements, rewritten, hm, he, Option.filter]
    · simp [modeStatements, rewritten, hm, he, Option.filter, Statement.adjust]

theorem applyAll_eq_ok (hf : db.triggers.find? t.oid = some t) :
    db.applyAll (u.renameStatements t ++ (u.commentStatements t ++ u.modeStatements t)) = .ok db' ↔
      (u.finalName t = t.name ∨
        ¬db.triggerNameTaken t.tableOid (u.finalName t) (some t.oid)) ∧
      db' = db.putTrigger t.oid (u.rewritten t) := by
  have hrest : (db.putTrigger t.oid { t with name := u.finalName t }).applyAll
      (u.commentStatements t ++ u.modeStatements t) =
        .ok (db.putTrigger t.oid (u.rewritten t)) := by
    rw [Database.applyAll_adjusts (db.find?_putTrigger t.oid _) fun s hs => adjusts_of_mem hs,
      foldl_adjust, Database.putTrigger_putTrigger]
  by_cases hn : u.finalName t = t.name
  · have hself : db.putTrigger t.oid { t with name := u.finalName t } = db := by
      rw [hn, Database.putTrigger_self hf]
    rw [hself] at hrest
    simp only [renameStatements, hn, if_true, List.nil_append, hrest, true_or, true_and,
      Except.ok.injEq, eq_comm]
  · have happly : db.applyAll (u.renameStatements t ++
        (u.commentStatements t ++ u.modeStatements t)) =
        db.renameTrigger t.oid (u.finalName t) >>= fun next =>
          next.applyAll (u.commentStatements t ++ u.modeStatements t) := by
      rw [renameStatements, if_neg hn]
      rfl
    rw [happly, bind_eq_ok]
    constructor
    · rintro ⟨next, hr, h⟩
      obtain ⟨htaken, rfl⟩ := (Database.renameTrigger_eq_ok hf _).mp hr
      rw [hrest] at h
      cases h
      exact ⟨.inr htaken, rfl⟩
    · rintro ⟨htaken, rfl⟩
      exact ⟨_, (Database.renameTrigger_eq_ok hf _).mpr ⟨htaken.resolve_left hn, rfl⟩, hrest⟩

/-- An update asks for a name that is blank after trimming. -/
def Unnames (u : TriggerUpdate) : Prop := ∃ name, u.name = some name ∧ Text.trim name = ""

/-- An update asks for a new name that another trigger of the table has. -/
def Collides (u : TriggerUpdate) (db : Database) (t : Trigger) : Prop :=
  ∃ name, u.name = some name ∧ name ≠ t.name ∧ ∃ o other, o ≠ t.oid ∧
    db.triggers.find? o = some other ∧ other.tableOid = t.tableOid ∧ other.name = name

/-- What an update gives the trigger has afterwards, and the rest it has as before. -/
structure Settles (u : TriggerUpdate) (t t' : Trigger) : Prop where
  name : t'.name = u.name.getD t.name
  description : t'.description = match u.description with
    | none => t.description
    | some text => if text = "" then none else some text
  mode : t'.mode = u.mode.getD t.mode
  oid : t'.oid = t.oid
  tableOid : t'.tableOid = t.tableOid
  table : t'.table = t.table
  function : t'.function = t.function

theorem settles_rewritten (u : TriggerUpdate) (t : Trigger) : u.Settles t (u.rewritten t) where
  name := rfl
  description := by cases hd : u.description <;> simp [rewritten, hd]
  mode := rfl
  oid := rfl
  tableOid := rfl
  table := rfl
  function := rfl

theorem unnames_iff : u.Unnames ↔ u.name.any Text.isBlankText = true := by
  simp only [Unnames, Option.any_eq_true, Text.isBlankText_iff]

theorem collides_iff (ho : ∀ {o other}, db.triggers.find? o = some other → other.oid = o) :
    u.Collides db t ↔ u.finalName t ≠ t.name ∧
      db.triggerNameTaken t.tableOid (u.finalName t) (some t.oid) = true := by
  rw [Database.triggerNameTaken_iff ho]
  unfold Collides finalName
  cases hn : u.name with
  | none => simp
  | some name => simp only [Option.some.injEq, exists_eq_left', Option.getD_some]

theorem statements_unnamed (h : u.Unnames) : u.statements t = .error .emptyTriggerName :=
  if_pos (unnames_iff.mp h)

theorem statements_named (h : ¬u.Unnames) : u.statements t =
    .ok (u.renameStatements t ++ (u.commentStatements t ++ u.modeStatements t)) :=
  statements_eq_ok.mpr ⟨Bool.eq_false_iff.mpr (mt unnames_iff.mpr h), rfl⟩

theorem applyAll_collides (hf : db.triggers.find? t.oid = some t)
    (hr : db.relations.find? t.tableOid = some stored) (hne : u.finalName t ≠ t.name)
    (ht : db.triggerNameTaken t.tableOid (u.finalName t) (some t.oid) = true) :
    db.applyAll (u.renameStatements t ++ (u.commentStatements t ++ u.modeStatements t)) =
      .error (.duplicate (.trigger (u.finalName t) stored.relation.name.name)) := by
  rw [renameStatements, if_neg hne]
  change db.renameTrigger t.oid (u.finalName t) >>= _ = _
  rw [Database.renameTrigger_taken hf hr ht]
  rfl

end TriggerUpdate

end DbConsole
