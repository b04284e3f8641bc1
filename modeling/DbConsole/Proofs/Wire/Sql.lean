import DbConsole.Proofs.Wire.Catalog
import DbConsole.Wire.Sql

namespace DbConsole

open Document Json

@[simp] theorem Comparator.read?_toJson (c : Comparator) : Comparator.read? c.toJson = some c := by
  cases c <;> rfl

def Condition.abridgement : Abridgement := .record [("value", .null)] []

theorem Condition.read?_of_allows {c : Condition} {j : Json} (h : abridgement.Allows c.toJson j) :
    Condition.read? j = some c := by
  obtain ⟨f, hf, hc⟩ := Fields.read?_of_allows ["column", "operator", "value"] h
    (by simp) (by simp)
  have hvalue : f.withDefault? "value" .null Document.toJson? = some c.value :=
    hc.keptOrDefault "value" rfl Option.some.inj rfl rfl
  simp [Condition.read?, hf, hvalue, hc.kept "column" rfl rfl rfl, hc.kept "operator" rfl rfl rfl]

def SortKey.abridgement : Abridgement := .record [("descending", .bool false)] []

theorem SortKey.read?_of_allows {k : SortKey} {j : Json} (h : abridgement.Allows k.toJson j) :
    SortKey.read? j = some k := by
  obtain ⟨f, hf, hk⟩ := Fields.read?_of_allows ["column", "descending"] h (by simp) (by simp)
  have hdescending : f.withDefault? "descending" false bool? = some k.descending :=
    hk.keptOrDefault "descending" rfl (by simp) rfl rfl
  simp [SortKey.read?, hf, hdescending, hk.kept "column" rfl rfl rfl]

def Select.abridgement : Abridgement :=
  .record [("filter", .array []), ("order_by", .array []), ("limit", .null)]
    [("filter", .items Condition.abridgement), ("order_by", .items SortKey.abridgement)]

theorem Select.read?_of_allows {q : Select} {j : Json} (h : abridgement.Allows q.toJson j) :
    Select.read? j = some q := by
  obtain ⟨f, hf, hq⟩ := Fields.read?_of_allows
    ["relation_oid", "relation", "filter", "order_by", "limit"] h (by simp) (by simp)
  have hfilter : f.withDefault? "filter" [] (list? Condition.read?) = some q.filter :=
    hq.listWithDefault "filter" rfl rfl rfl fun _ _ => Condition.read?_of_allows
  have horder : f.withDefault? "order_by" [] (list? SortKey.read?) = some q.order :=
    hq.listWithDefault "order_by" rfl rfl rfl fun _ _ => SortKey.read?_of_allows
  have hlimit : f.withDefault? "limit" none (option? uint64?) = some q.limit :=
    hq.optionWithDefault "limit" rfl rfl rfl uint64?_nat nofun
  simp [Select.read?, hf, hfilter, horder, hlimit, hq.kept "relation_oid" rfl rfl rfl,
    hq.kept "relation" rfl rfl rfl]

@[simp] theorem CommentTarget.read?_toJson (t : CommentTarget) :
    CommentTarget.read? t.toJson = some t := by
  have h := (Abridgement.record [] []).refl t.toJson
  cases t with
  | relation oid kind name =>
    obtain ⟨inner, f, hinner, hf, ht⟩ := Fields.readAlternative?_whole
      ["oid", "kind", "name"] h rfl (by simp) (by simp)
    simp [read?, hinner, hf, ht.kept "oid" rfl rfl rfl, ht.kept "kind" rfl rfl rfl,
      ht.kept "name" rfl rfl rfl]
  | trigger oid name table =>
    obtain ⟨inner, f, hinner, hf, ht⟩ := Fields.readAlternative?_whole
      ["oid", "name", "table"] h rfl (by simp) (by simp)
    simp [read?, hinner, hf, ht.kept "oid" rfl rfl rfl, ht.kept "name" rfl rfl rfl,
      ht.kept "table" rfl rfl rfl]

theorem Statement.list?_pairs (options : List (String × String)) :
    list? (pair? string? string?)
      (Json.array (options.map fun (name, value) => .strings [name, value])) = some options :=
  list?_array (List.forall₂_map_right_iff.mpr (List.forall₂_same.mpr fun _ _ => rfl))

def Statement.abridgement : Abridgement :=
  .record [] [("Comment", .record [("comment", .null)] [])]

theorem Statement.read?_of_allows {s : Statement} {j : Json} (h : abridgement.Allows s.toJson j) :
    Statement.read? j = some s := by
  cases s with
  | comment target text =>
    obtain ⟨inner, hinner, hj⟩ := Abridgement.alternative?_of_allows h
    obtain ⟨f, hf, hs⟩ := Fields.readAlternative?_of_allows ["target", "comment"] hj
      (by simp) (by simp)
    have htext : f.optional? "comment" string? = some text :=
      hs.optional "comment" rfl rfl rfl string?_string nofun
    simp [read?, hinner, readComment?, hf, htext, hs.kept "target" rfl rfl rfl]
  | setTriggerMode oid trigger table mode =>
    obtain ⟨inner, f, hinner, hf, hs⟩ := Fields.readAlternative?_whole
      ["trigger_oid", "trigger", "table", "mode"] h rfl (by simp) (by simp)
    simp [read?, hinner, readSetTriggerMode?, hf, hs.kept "trigger_oid" rfl rfl rfl,
      hs.kept "trigger" rfl rfl rfl, hs.kept "table" rfl rfl rfl, hs.kept "mode" rfl rfl rfl]
  | renameTrigger oid table old new =>
    obtain ⟨inner, f, hinner, hf, hs⟩ := Fields.readAlternative?_whole
      ["trigger_oid", "table", "from", "to"] h rfl (by simp) (by simp)
    simp [read?, hinner, readRenameTrigger?, hf, hs.kept "trigger_oid" rfl rfl rfl,
      hs.kept "table" rfl rfl rfl, hs.kept "from" rfl rfl rfl, hs.kept "to" rfl rfl rfl]
  | setOptions oid kind relation options =>
    obtain ⟨inner, f, hinner, hf, hs⟩ := Fields.readAlternative?_whole
      ["relation_oid", "kind", "relation", "options"] h rfl (by simp) (by simp)
    have hoptions : f.required? "options" (list? (pair? string? string?)) = some options :=
      (hs.kept "options" rfl rfl rfl).trans (list?_pairs options)
    simp [read?, hinner, readSetOptions?, hf, hoptions, hs.kept "relation_oid" rfl rfl rfl,
      hs.kept "kind" rfl rfl rfl, hs.kept "relation" rfl rfl rfl]
  | resetOptions oid kind relation options =>
    obtain ⟨inner, f, hinner, hf, hs⟩ := Fields.readAlternative?_whole
      ["relation_oid", "kind", "relation", "options"] h rfl (by simp) (by simp)
    simp [read?, hinner, readResetOptions?, hf, hs.kept "relation_oid" rfl rfl rfl,
      hs.kept "kind" rfl rfl rfl, hs.kept "relation" rfl rfl rfl, hs.kept "options" rfl rfl rfl]

/-- Statements, queries and what a catalog describes are read back from their JSON forms, also from
those without any of the fields that hold their default. -/
theorem forms_read_back :
    ReadsBack Statement.toJson Statement.abridgement Statement.read? ∧
    ReadsBack Select.toJson Select.abridgement Select.read? ∧
    ReadsBack Condition.toJson Condition.abridgement Condition.read? ∧
    ReadsBack SortKey.toJson SortKey.abridgement SortKey.read? ∧
    ReadsBack Column.toJson Column.abridgement Column.read? ∧
    ReadsBack Relation.toJson Relation.abridgement Relation.read? ∧
    ReadsBack Trigger.toJson Trigger.abridgement Trigger.read? ∧
    ReadsBack DatabasePath.toJson DatabasePath.abridgement DatabasePath.read? ∧
    ReadsBack ResultColumn.toJson ResultColumn.abridgement ResultColumn.read? :=
  ⟨.of_allows Statement.read?_of_allows, .of_allows Select.read?_of_allows,
    .of_allows Condition.read?_of_allows, .of_allows SortKey.read?_of_allows,
    .of_allows Column.read?_of_allows, .of_allows Relation.read?_of_allows,
    .of_allows Trigger.read?_of_allows, .of_allows DatabasePath.read?_of_allows,
    .of_allows ResultColumn.read?_of_allows⟩

def plainQuery : Select where
  relationOid := 7
  relation := ⟨"s", "t"⟩
  filter := [⟨"a", .isNull, .null⟩]
  order := [⟨"b", false⟩]
  limit := none

/-- The query without its limit, the value and the direction, and a statement without a comment. -/
theorem forms_read_back_defaults :
    Select.read? (Json.object [("filter", .array [.object [("column", .string "a"),
        ("operator", .string "is_null")]]),
      ("order_by", .array [.object [("column", .string "b")]]),
      ("relation", .object [("name", .string "t"), ("schema", .string "s")]),
      ("relation_oid", .nat 7)]) = some plainQuery ∧
    Statement.read? (Json.object [("Comment", .object [("target", .object [("Trigger",
      .object [("name", .string "r"), ("oid", .nat 8), ("table", .object [("name", .string "t"),
        ("schema", .string "s")])])])])]) =
      some (.comment (.trigger 8 "r" ⟨"s", "t"⟩) none) := by
  obtain ⟨hstatement, hselect, _⟩ := forms_read_back
  refine ⟨hselect.abridged plainQuery _ ?_, hstatement.abridged _ _ ?_⟩
  · have hcondition : Condition.abridgement.Allows (Condition.toJson ⟨"a", .isNull, .null⟩)
        (.object [("column", .string "a"), ("operator", .string "is_null")]) :=
      Abridgement.Members.filter (fun m => m.1 ≠ "value") (by simp)
    have hkey : SortKey.abridgement.Allows (SortKey.toJson ⟨"b", false⟩)
        (.object [("column", .string "b")]) :=
      Abridgement.Members.filter (fun m => m.1 ≠ "descending") (by simp)
    exact .keep "filter" _ _ _ _ (.cons hcondition .nil) (.leave "limit" .null _ _ rfl
      (.keep "order_by" _ _ _ _ (.cons hkey .nil) (.keep "relation" _ _ _ _ rfl
        (.keep "relation_oid" _ _ _ _ rfl .nil))))
  · have hcomment : (Abridgement.record [("comment", .null)] []).Allows
        (.object [("comment", .null), ("target", CommentTarget.toJson (.trigger 8 "r" ⟨"s", "t"⟩))])
        (.object [("target", CommentTarget.toJson (.trigger 8 "r" ⟨"s", "t"⟩))]) :=
      Abridgement.Members.filter (fun m => m.1 ≠ "comment") (by simp)
    exact .keep "Comment" _ _ _ _ hcomment .nil

end DbConsole
