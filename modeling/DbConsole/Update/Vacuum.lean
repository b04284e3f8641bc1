import DbConsole.Decimal.Literal
import DbConsole.Text.Blank
import DbConsole.Update.Error

namespace DbConsole

structure VacuumGroup where
  mark : String
  parameters : List String
deriving DecidableEq

namespace VacuumGroup

def toastParameters : List String := [
  "autovacuum_freeze_max_age",
  "autovacuum_vacuum_cost_delay",
  "autovacuum_vacuum_cost_limit",
  "autovacuum_vacuum_scale_factor",
  "autovacuum_vacuum_threshold",
  "autovacuum_freeze_min_age",
  "autovacuum_freeze_table_age"]

def table : VacuumGroup where
  mark := ""
  parameters :=
    ["autovacuum_analyze_scale_factor", "autovacuum_analyze_threshold"] ++ toastParameters

def toast : VacuumGroup := ⟨"toast.", toastParameters⟩

def optionName (g : VacuumGroup) (parameter : String) : String := g.mark ++ parameter

def switch (g : VacuumGroup) : String := g.optionName "autovacuum_enabled"

def options (g : VacuumGroup) : List String := g.switch :: g.parameters.map g.optionName

end VacuumGroup

/-- A parameter with the value that it has or shall get; `null` is the built-in one. -/
structure VacuumEntry where
  name : String
  value : Json
deriving Inhabited

structure OptionChanges where
  set : List (String × String)
  reset : List String
deriving DecidableEq, Inhabited

namespace OptionChanges

def none : OptionChanges := ⟨[], []⟩

def append (a b : OptionChanges) : OptionChanges := ⟨a.set ++ b.set, a.reset ++ b.reset⟩

instance : Append OptionChanges := ⟨append⟩

end OptionChanges

structure VacuumRequest where
  /-- `false` resets the whole group. -/
  custom : Option Bool
  enabled : Option Bool
  changed : List VacuumEntry
deriving Inhabited

namespace VacuumRequest

/-- The value of a parameter is a number or a text that spells one. -/
def change (g : VacuumGroup) (entry : VacuumEntry) : Except BadRequest OptionChanges :=
  let name := g.optionName entry.name
  if g.parameters.contains entry.name then
    match entry.value with
    | .null => .ok ⟨[], [name]⟩
    | .number n => .ok ⟨[(name, n.text)], []⟩
    | .string s =>
      if (FloatReading.ofString? (Text.trim s)).isSome then .ok ⟨[(name, Text.trim s)], []⟩
      else .error (.parameterValue name entry.value)
    | value => .error (.parameterValue name value)
  else .error (.unknownParameter name)

def changeAll (g : VacuumGroup) : List VacuumEntry → Except BadRequest OptionChanges
  | [] => .ok .none
  | entry :: rest => do
    let first ← change g entry
    let others ← changeAll g rest
    return first ++ others

def changes (r : VacuumRequest) (g : VacuumGroup) : Except BadRequest OptionChanges :=
  if r.custom = some false then .ok ⟨[], g.options⟩
  else do
    let switch : OptionChanges :=
      ⟨r.enabled.toList.map fun b => (g.switch, if b then "true" else "false"), []⟩
    let others ← changeAll g r.changed
    return switch ++ others

end VacuumRequest

end DbConsole
