import DbConsole.Proofs.Sql.Name
import DbConsole.Sql.Statement
import Mathlib.Data.Set.List

namespace DbConsole

open Sql

def CommentTarget.unnumbered : CommentTarget → CommentTarget
  | .relation _ kind name => .relation 0 kind name
  | .trigger _ name table => .trigger 0 name table

namespace Statement

/-- The statement without the number of the object that it changes. -/
def unnumbered : Statement → Statement
  | .comment target text => .comment target.unnumbered text
  | .setTriggerMode _ trigger table mode => .setTriggerMode 0 trigger table mode
  | .renameTrigger _ table old new => .renameTrigger 0 table old new
  | .setOptions _ kind relation options => .setOptions 0 kind relation options
  | .resetOptions _ kind relation options => .resetOptions 0 kind relation options

/-- Options to set or to reset, at least one, with names and values that need no quotes. -/
def BareOptions : Statement → Prop
  | .setOptions _ _ _ options => options ≠ [] ∧ ∀ e ∈ options, IsBare e.1 ∧ IsBare e.2
  | .resetOptions _ _ _ options => options ≠ [] ∧ ∀ name ∈ options, IsBare name
  | _ => True

/-- The words with which a statement begins, up to the first name. -/
inductive Opening where
  /-- Without a kind of relation, the comment is on a trigger. -/
  | comment (kind : Option RelationKind)
  | renameTrigger
  | alter (kind : RelationKind)
deriving DecidableEq

def Opening.all : List Opening :=
  [.comment none, .renameTrigger] ++
    [.table, .view, .materializedView, .foreignTable].flatMap fun k => [.comment (some k), .alter k]

theorem Opening.mem_all (a : Opening) : a ∈ all := by
  cases a with
  | comment kind => cases kind with
    | none => decide
    | some kind => cases kind <;> decide
  | renameTrigger => decide
  | alter kind => cases kind <;> decide

def Opening.words : Opening → String
  | .comment (some kind) => "COMMENT ON " ++ kind.keyword ++ " "
  | .comment none => "COMMENT ON " ++ "TRIGGER "
  | .renameTrigger => "ALTER TRIGGER "
  | .alter kind => "ALTER " ++ kind.keyword ++ " "

theorem Opening.selfDelimiting {p : Char → Prop} :
    SelfDelimiting Eq p fun a : Opening => a.words.toList := by
  have hwords : ∀ a ∈ all, ∀ b ∈ all, a.words.toList <+: b.words.toList → a = b := by
    decide +kernel
  exact .of_prefixFree fun a b => hwords a a.mem_all b b.mem_all

/-- The words between the name of a relation and what is altered of it. -/
inductive Alteration where
  | trigger (mode : TriggerMode)
  | set
  | reset
deriving DecidableEq

def Alteration.all : List Alteration :=
  [.trigger .origin, .trigger .always, .trigger .replica, .trigger .disabled, .set, .reset]

theorem Alteration.mem_all (a : Alteration) : a ∈ all := by
  cases a with
  | trigger mode => cases mode <;> decide
  | set => decide
  | reset => decide

def Alteration.words : Alteration → String
  | .trigger mode => " " ++ mode.clause ++ " TRIGGER "
  | .set => " SET ("
  | .reset => " RESET ("

theorem Alteration.selfDelimiting {p : Char → Prop} :
    SelfDelimiting Eq p fun a : Alteration => a.words.toList := by
  have hwords : ∀ a ∈ all, ∀ b ∈ all, a.words.toList <+: b.words.toList → a = b := by
    decide +kernel
  exact .of_prefixFree fun a b => hwords a a.mem_all b b.mem_all

def opening : Statement → Opening
  | .comment (.relation _ kind _) _ => .comment (some kind)
  | .comment (.trigger ..) _ => .comment none
  | .renameTrigger .. => .renameTrigger
  | .setTriggerMode .. => .alter .table
  | .setOptions _ kind _ _ => .alter kind
  | .resetOptions _ kind _ _ => .alter kind

def commentRest (text : Option String) : String := " IS " ++ ((text.map literal).getD "NULL" ++ ";")

def rest : Statement → String
  | .comment (.relation _ _ name) text => name.sql ++ commentRest text
  | .comment (.trigger _ name table) text =>
    ident name ++ (" ON " ++ (table.sql ++ commentRest text))
  | .renameTrigger _ table old new =>
    ident old ++ (" ON " ++ (table.sql ++ (" RENAME TO " ++ (ident new ++ ";"))))
  | .setTriggerMode _ trigger table mode =>
    table.sql ++ ((Alteration.trigger mode).words ++ (ident trigger ++ ";"))
  | .setOptions _ _ relation options =>
    relation.sql ++ (Alteration.set.words ++
      (", ".intercalate (options.map fun e => e.1 ++ " = " ++ e.2) ++ ");"))
  | .resetOptions _ _ relation options =>
    relation.sql ++ (Alteration.reset.words ++ (", ".intercalate options ++ ");"))

theorem sql_eq (s : Statement) : s.sql = s.opening.words ++ s.rest := by
  cases s with
  | comment target text =>
    have hsql : (comment target text).sql =
      "COMMENT ON " ++ target.sql ++ " IS " ++ (text.map literal).getD "NULL" ++ ";" := rfl
    cases target <;>
      simp only [hsql, CommentTarget.sql, opening, rest, Opening.words, commentRest,
        String.append_assoc]
  | setTriggerMode oid trigger table mode =>
    have hsql : (setTriggerMode oid trigger table mode).sql = "ALTER TABLE " ++ table.sql ++ " " ++
      mode.clause ++ " TRIGGER " ++ ident trigger ++ ";" := rfl
    have hwords : "ALTER TABLE " = (Opening.alter .table).words := by decide
    simp only [hsql, opening, rest, Alteration.words, String.append_assoc, hwords]
  | renameTrigger oid table old new =>
    have hsql : (renameTrigger oid table old new).sql = "ALTER TRIGGER " ++ ident old ++ " ON " ++
      table.sql ++ " RENAME TO " ++ ident new ++ ";" := rfl
    simp only [hsql, opening, rest, Opening.words, String.append_assoc]
  | setOptions oid kind relation options =>
    have hsql : (setOptions oid kind relation options).sql = "ALTER " ++ kind.keyword ++ " " ++
      relation.sql ++ " SET (" ++ ", ".intercalate (options.map fun e => e.1 ++ " = " ++ e.2) ++
        ");" := rfl
    simp only [hsql, opening, rest, Opening.words, Alteration.words, String.append_assoc]
  | resetOptions oid kind relation options =>
    have hsql : (resetOptions oid kind relation options).sql = "ALTER " ++ kind.keyword ++ " " ++
      relation.sql ++ " RESET (" ++ ", ".intercalate options ++ ");" := rfl
    simp only [hsql, opening, rest, Opening.words, Alteration.words, String.append_assoc]

variable {a b : Statement}

theorem commentRest_inj {text text' : Option String} (h : commentRest text = commentRest text') :
    text = text' := by
  have he := congrArg String.toList h
  simp only [commentRest, String.toList_append, List.append_cancel_left_eq] at he
  have hnull : ∀ value s t, "NULL".toList ++ s ≠ (literal value).toList ++ t := by
    intro value s t hl
    simp [literal, enclose] at hl
  cases text with
  | none =>
    cases text' with
    | none => rfl
    | some value => exact absurd he (hnull value _ _)
  | some value =>
    cases text' with
    | none => exact absurd he.symm (hnull value _ _)
    | some value' =>
      obtain ⟨rfl, _⟩ :=
        literal_selfDelimiting (ends_cons.mpr (by decide)) (ends_cons.mpr (by decide)) he
      rfl

def FollowsName (t : String) : Prop := Ends EndsName t.toList

theorem followsName_append {words t : String} (hne : words.toList ≠ [])
    (h : Ends EndsName words.toList) : FollowsName (words ++ t) := by
  rw [FollowsName, String.toList_append]
  exact h.append hne

theorem followsName_commentRest (text : Option String) : FollowsName (commentRest text) :=
  followsName_append (by decide) (by decide)

theorem followsName_end : FollowsName ";" := by
  unfold FollowsName
  decide

section Names

variable {s t words : String}

theorem relation_inj {name name' : QualifiedName} (hs : FollowsName s) (ht : FollowsName t)
    (h : name.sql ++ s = name'.sql ++ t) : name = name' ∧ s = t := by
  have he := congrArg String.toList h
  rw [String.toList_append, String.toList_append] at he
  obtain ⟨hname, hst⟩ := QualifiedName.selfDelimiting hs ht he
  exact ⟨hname, String.toList_inj.mp hst⟩

theorem ident_inj {name name' : String} (hs : FollowsName s) (ht : FollowsName t)
    (h : ident name ++ s = ident name' ++ t) : name = name' ∧ s = t := by
  have he := congrArg String.toList h
  rw [String.toList_append, String.toList_append] at he
  obtain ⟨hname, hst⟩ := ident_selfDelimiting hs ht he
  exact ⟨hname, String.toList_inj.mp hst⟩

theorem trigger_inj {name name' : String} {table table' : QualifiedName} (hs : FollowsName s)
    (ht : FollowsName t) (h : ident name ++ (" ON " ++ (table.sql ++ s)) =
      ident name' ++ (" ON " ++ (table'.sql ++ t))) : name = name' ∧ table = table' ∧ s = t := by
  have hon : ∀ {t : String}, FollowsName (" ON " ++ t) :=
    followsName_append (by decide) (by decide)
  obtain ⟨hname, hrest⟩ := ident_inj hon hon h
  exact ⟨hname, relation_inj hs ht ((String.append_right_inj _).mp hrest)⟩

end Names

theorem alteration_inj {name name' : QualifiedName} {w w' : Alteration} {s t : String}
    (h : name.sql ++ (w.words ++ s) = name'.sql ++ (w'.words ++ t)) :
    name = name' ∧ w = w' ∧ s = t := by
  have hall : ∀ w ∈ Alteration.all, w.words.toList ≠ [] ∧ Ends EndsName w.words.toList := by
    decide +kernel
  have hfollows : ∀ (w : Alteration) (s : String), FollowsName (w.words ++ s) :=
    fun w s => followsName_append (hall w w.mem_all).1 (hall w w.mem_all).2
  obtain ⟨hname, hrest⟩ := relation_inj (hfollows w s) (hfollows w' t) h
  have he := congrArg String.toList hrest
  rw [String.toList_append, String.toList_append] at he
  obtain ⟨hw, hst⟩ := Alteration.selfDelimiting (p := fun _ => True) (fun _ _ => trivial)
    (fun _ _ => trivial) he
  exact ⟨hname, hw, String.toList_inj.mp hst⟩

theorem setting_selfDelimiting : SelfDelimiting Eq (· ∈ marks)
    fun e : {e : String × String // IsBare e.1 ∧ IsBare e.2} =>
      (e.1.1 ++ " = " ++ e.1.2).toList := by
  rintro ⟨⟨name, value⟩, hn, hv⟩ ⟨⟨name', value'⟩, hn', hv'⟩ s t hs ht he
  simp only [String.toList_append, List.append_assoc] at he
  have hspace : ∀ {u : List Char}, Ends (· ∈ marks) (" = ".toList ++ u) :=
    Ends.append (by decide) (by decide)
  obtain ⟨hname, hrest⟩ := runs_eq he hspace hspace hn hn'
  obtain ⟨hvalue, hst⟩ := runs_eq (List.append_cancel_left hrest) hs ht hv hv'
  cases String.toList_inj.mp hname
  cases String.toList_inj.mp hvalue
  exact ⟨rfl, hst⟩

theorem settings_inj {l l' : List (String × String)} (hne : l ≠ []) (hne' : l' ≠ [])
    (hl : ∀ e ∈ l, IsBare e.1 ∧ IsBare e.2) (hl' : ∀ e ∈ l', IsBare e.1 ∧ IsBare e.2)
    (h : ", ".intercalate (l.map fun e => e.1 ++ " = " ++ e.2) ++ ");" =
      ", ".intercalate (l'.map fun e => e.1 ++ " = " ++ e.2) ++ ");") : l = l' := by
  lift l to List {e : String × String // IsBare e.1 ∧ IsBare e.2} using hl
  lift l' to List {e : String × String // IsBare e.1 ∧ IsBare e.2} using hl'
  have he := congrArg String.toList h
  rw [String.toList_append, String.toList_append, List.map_map, List.map_map] at he
  obtain ⟨hll, _⟩ := setting_selfDelimiting.intercalate (by decide) (by decide)
    (by simpa using hne) (by simpa using hne') (by decide) (by decide) (by decide) (by decide) he
  rw [List.forall₂_eq_eq_eq] at hll
  rw [hll]

theorem resettings_inj {l l' : List String} (hne : l ≠ []) (hne' : l' ≠ [])
    (hl : ∀ name ∈ l, IsBare name) (hl' : ∀ name ∈ l', IsBare name)
    (h : ", ".intercalate l ++ ");" = ", ".intercalate l' ++ ");") : l = l' := by
  lift l to List {s : String // IsBare s} using hl
  lift l' to List {s : String // IsBare s} using hl'
  have he := congrArg String.toList h
  rw [String.toList_append, String.toList_append] at he
  obtain ⟨hll, _⟩ := bare_selfDelimiting.intercalate (by decide) (by decide)
    (mt (congrArg _) hne) (mt (congrArg _) hne') (by decide) (by decide) (by decide) (by decide) he
  rw [List.forall₂_eq_eq_eq] at hll
  rw [hll]

theorem comment_inj {target target' : CommentTarget} {text text' : Option String}
    (ho : (comment target text).opening = (comment target' text').opening)
    (hr : (comment target text).rest = (comment target' text').rest) :
    target.unnumbered = target'.unnumbered ∧ text = text' := by
  cases target with
  | relation oid kind name =>
    cases target' with
    | relation oid' kind' name' =>
      cases ho
      obtain ⟨rfl, ht⟩ :=
        relation_inj (followsName_commentRest _) (followsName_commentRest _) hr
      exact ⟨rfl, commentRest_inj ht⟩
    | trigger => cases ho
  | trigger oid name table =>
    cases target' with
    | relation => cases ho
    | trigger oid' name' table' =>
      obtain ⟨rfl, rfl, ht⟩ :=
        trigger_inj (followsName_commentRest _) (followsName_commentRest _) hr
      exact ⟨rfl, commentRest_inj ht⟩

theorem renameTrigger_inj {oid oid' : Oid} {table table' : QualifiedName}
    {old new old' new' : String}
    (hr : (renameTrigger oid table old new).rest = (renameTrigger oid' table' old' new').rest) :
    table = table' ∧ old = old' ∧ new = new' := by
  have hto : ∀ {t : String}, FollowsName (" RENAME TO " ++ t) :=
    followsName_append (by decide) (by decide)
  obtain ⟨hold, htable, ht⟩ := trigger_inj hto hto hr
  obtain ⟨hnew, _⟩ :=
    ident_inj followsName_end followsName_end ((String.append_right_inj _).mp ht)
  exact ⟨htable, hold, hnew⟩

theorem unnumbered_eq_of_rest (ha : a.BareOptions) (hb : b.BareOptions)
    (ho : a.opening = b.opening) (hr : a.rest = b.rest) : a.unnumbered = b.unnumbered := by
  cases a with
  | comment target text =>
    cases b with
    | comment target' text' =>
      obtain ⟨ht, rfl⟩ := comment_inj ho hr
      exact congrArg (comment · text) ht
    | _ => cases target <;> cases ho
  | renameTrigger oid table old new =>
    cases b with
    | renameTrigger oid' table' old' new' =>
      obtain ⟨rfl, rfl, rfl⟩ := renameTrigger_inj hr
      rfl
    | comment target' text' => cases target' <;> cases ho
    | _ => cases ho
  | setTriggerMode oid trigger table mode =>
    cases b with
    | setTriggerMode oid' trigger' table' mode' =>
      obtain ⟨rfl, hw, ht⟩ := alteration_inj hr
      cases hw
      obtain ⟨rfl, _⟩ := ident_inj followsName_end followsName_end ht
      rfl
    | setOptions => cases (alteration_inj hr).2.1
    | resetOptions => cases (alteration_inj hr).2.1
    | comment target' text' => cases target' <;> cases ho
    | renameTrigger => cases ho
  | setOptions oid kind relation options =>
    cases b with
    | setOptions oid' kind' relation' options' =>
      cases ho
      obtain ⟨rfl, _, ht⟩ := alteration_inj hr
      cases settings_inj ha.1 hb.1 ha.2 hb.2 ht
      rfl
    | setTriggerMode => cases (alteration_inj hr).2.1
    | resetOptions => cases (alteration_inj hr).2.1
    | comment target' text' => cases target' <;> cases ho
    | renameTrigger => cases ho
  | resetOptions oid kind relation options =>
    cases b with
    | resetOptions oid' kind' relation' options' =>
      cases ho
      obtain ⟨rfl, _, ht⟩ := alteration_inj hr
      cases resettings_inj ha.1 hb.1 ha.2 hb.2 ht
      rfl
    | setTriggerMode => cases (alteration_inj hr).2.1
    | setOptions => cases (alteration_inj hr).2.1
    | comment target' text' => cases target' <;> cases ho
    | renameTrigger => cases ho

theorem unnumbered_eq_of_sql (ha : a.BareOptions) (hb : b.BareOptions) (h : a.sql = b.sql) :
    a.unnumbered = b.unnumbered := by
  have he := congrArg String.toList h
  rw [a.sql_eq, b.sql_eq, String.toList_append, String.toList_append] at he
  obtain ⟨ho, hr⟩ := Opening.selfDelimiting (p := fun _ => True) (fun _ _ => trivial)
    (fun _ _ => trivial) he
  exact unnumbered_eq_of_rest ha hb ho (String.toList_inj.mp hr)

end Statement

end DbConsole
