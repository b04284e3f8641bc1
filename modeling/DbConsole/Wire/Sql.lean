import DbConsole.Sql.Select
import DbConsole.Sql.Statement
import DbConsole.Wire.Catalog

namespace DbConsole

open Document

variable {δ : Type} [Document δ]

namespace Comparator

def code : Comparator → String
  | .eq => "eq"
  | .ne => "ne"
  | .lt => "lt"
  | .le => "le"
  | .gt => "gt"
  | .ge => "ge"
  | .isNull => "is_null"
  | .isNotNull => "is_not_null"

def toJson (c : Comparator) : Json := .string c.code

def read? (d : δ) : Option Comparator :=
  choice? [("eq", .eq), ("ne", .ne), ("lt", .lt), ("le", .le), ("gt", .gt), ("ge", .ge),
    ("is_null", .isNull), ("is_not_null", .isNotNull)] d

end Comparator

namespace Condition

def toJson (c : Condition) : Json :=
  .object [("column", .string c.column), ("operator", c.comparator.toJson), ("value", c.value)]

def read? (d : δ) : Option Condition := do
  let f ← Fields.read? ["column", "operator", "value"] d
  let column ← f.required? "column" string?
  let comparator ← f.required? "operator" Comparator.read?
  let value ← f.withDefault? "value" .null Document.toJson?
  return { column, comparator, value }

end Condition

namespace SortKey

def toJson (k : SortKey) : Json :=
  .object [("column", .string k.column), ("descending", .bool k.descending)]

def read? (d : δ) : Option SortKey := do
  let f ← Fields.read? ["column", "descending"] d
  let column ← f.required? "column" string?
  let descending ← f.withDefault? "descending" false bool?
  return { column, descending }

end SortKey

namespace Select

def toJson (q : Select) : Json :=
  .object [("filter", .array (q.filter.map (·.toJson))),
    ("limit", .option (fun n => .nat n.toNat) q.limit),
    ("order_by", .array (q.order.map (·.toJson))), ("relation", q.relation.toJson),
    ("relation_oid", .uint32 q.relationOid)]

def read? (d : δ) : Option Select := do
  let f ← Fields.read? ["relation_oid", "relation", "filter", "order_by", "limit"] d
  let relationOid ← f.required? "relation_oid" uint32?
  let relation ← f.required? "relation" QualifiedName.read?
  let filter ← f.withDefault? "filter" [] (list? Condition.read?)
  let order ← f.withDefault? "order_by" [] (list? SortKey.read?)
  let limit ← f.withDefault? "limit" none (option? uint64?)
  return { relationOid, relation, filter, order, limit }

end Select

namespace CommentTarget

def toJson : CommentTarget → Json
  | .relation oid kind name =>
    .object [("Relation",
      .object [("kind", kind.toJson), ("name", name.toJson), ("oid", .uint32 oid)])]
  | .trigger oid name table =>
    .object [("Trigger",
      .object [("name", .string name), ("oid", .uint32 oid), ("table", table.toJson)])]

def read? (d : δ) : Option CommentTarget := do
  let (name, d) ← alternative? d
  match name with
  | "Relation" =>
    let f ← Fields.readAlternative? ["oid", "kind", "name"] d
    let oid ← f.required? "oid" uint32?
    let kind ← f.required? "kind" RelationKind.read?
    let name ← f.required? "name" QualifiedName.read?
    return .relation oid kind name
  | "Trigger" =>
    let f ← Fields.readAlternative? ["oid", "name", "table"] d
    let oid ← f.required? "oid" uint32?
    let name ← f.required? "name" string?
    let table ← f.required? "table" QualifiedName.read?
    return .trigger oid name table
  | _ => none

end CommentTarget

namespace Statement

def toJson : Statement → Json
  | .comment target text =>
    .object [("Comment",
      .object [("comment", .option .string text), ("target", target.toJson)])]
  | .setTriggerMode oid trigger table mode =>
    .object [("SetTriggerMode",
      .object [("mode", mode.toJson), ("table", table.toJson), ("trigger", .string trigger),
        ("trigger_oid", .uint32 oid)])]
  | .renameTrigger oid table old new =>
    .object [("RenameTrigger",
      .object [("from", .string old), ("table", table.toJson), ("to", .string new),
        ("trigger_oid", .uint32 oid)])]
  | .setOptions oid kind relation options =>
    .object [("SetOptions",
      .object [("kind", kind.toJson),
        ("options", .array (options.map fun (name, value) => .strings [name, value])),
        ("relation", relation.toJson), ("relation_oid", .uint32 oid)])]
  | .resetOptions oid kind relation options =>
    .object [("ResetOptions",
      .object [("kind", kind.toJson), ("options", .strings options),
        ("relation", relation.toJson), ("relation_oid", .uint32 oid)])]

def readComment? (d : δ) : Option Statement := do
  let f ← Fields.readAlternative? ["target", "comment"] d
  let target ← f.required? "target" CommentTarget.read?
  let text ← f.optional? "comment" string?
  return .comment target text

def readSetTriggerMode? (d : δ) : Option Statement := do
  let f ← Fields.readAlternative? ["trigger_oid", "trigger", "table", "mode"] d
  let oid ← f.required? "trigger_oid" uint32?
  let trigger ← f.required? "trigger" string?
  let table ← f.required? "table" QualifiedName.read?
  let mode ← f.required? "mode" TriggerMode.read?
  return .setTriggerMode oid trigger table mode

def readRenameTrigger? (d : δ) : Option Statement := do
  let f ← Fields.readAlternative? ["trigger_oid", "table", "from", "to"] d
  let oid ← f.required? "trigger_oid" uint32?
  let table ← f.required? "table" QualifiedName.read?
  let old ← f.required? "from" string?
  let new ← f.required? "to" string?
  return .renameTrigger oid table old new

def readSetOptions? (d : δ) : Option Statement := do
  let f ← Fields.readAlternative? ["relation_oid", "kind", "relation", "options"] d
  let oid ← f.required? "relation_oid" uint32?
  let kind ← f.required? "kind" RelationKind.read?
  let relation ← f.required? "relation" QualifiedName.read?
  let options ← f.required? "options" (list? (pair? string? string?))
  return .setOptions oid kind relation options

def readResetOptions? (d : δ) : Option Statement := do
  let f ← Fields.readAlternative? ["relation_oid", "kind", "relation", "options"] d
  let oid ← f.required? "relation_oid" uint32?
  let kind ← f.required? "kind" RelationKind.read?
  let relation ← f.required? "relation" QualifiedName.read?
  let options ← f.required? "options" (list? string?)
  return .resetOptions oid kind relation options

def read? (d : δ) : Option Statement := do
  let (name, d) ← alternative? d
  match name with
  | "Comment" => readComment? d
  | "SetTriggerMode" => readSetTriggerMode? d
  | "RenameTrigger" => readRenameTrigger? d
  | "SetOptions" => readSetOptions? d
  | "ResetOptions" => readResetOptions? d
  | _ => none

end Statement

end DbConsole
