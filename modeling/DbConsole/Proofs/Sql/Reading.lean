import DbConsole.Proofs.Sql.Name

namespace DbConsole.Sql

/-- Reads one name, written as it is or between double quotes; answers the name and what follows. -/
def readIdent? (text : String) : Option (String × String) :=
  (readName? text.toList).map fun r => (String.ofList r.1, String.ofList r.2)

def readLiteral? (text : String) : Option (String × String) :=
  (readEnclosed? '\x27' text.toList).map fun r => (String.ofList r.1, String.ofList r.2)

theorem readIdent?_ident (name : String) {t : String} (ht : Ends EndsName t.toList) :
    readIdent? (ident name ++ t) = some (name, t) := by
  simp [readIdent?, ident, readName?_identChars _ ht]

theorem readLiteral?_literal (value : String) {t : String} (ht : Ends (· ≠ '\x27') t.toList) :
    readLiteral? (literal value ++ t) = some (value, t) := by
  simp [readLiteral?, literal, readEnclosed?_enclose _ _ ht]

theorem SelfDelimiting.injective {α : Type} {p : Char → Prop} {write : α → String}
    (h : SelfDelimiting Eq p fun a => (write a).toList) : Function.Injective write := by
  intro a b he
  exact (h (s := []) (t := []) ends_nil ends_nil (by simp [he])).1

/-- Whatever names and literals contain, they are read back in front of every text that does not go
on with them, and so different ones are written differently. -/
theorem quoted_read_back :
    (∀ name t : String, Ends (fun c => c ≠ '"' ∧ isNameChar c = false) t.toList →
      readIdent? (ident name ++ t) = some (name, t)) ∧
    (∀ value t : String, Ends (· ≠ '\x27') t.toList →
      readLiteral? (literal value ++ t) = some (value, t)) ∧
    Function.Injective ident ∧ Function.Injective literal ∧
    Function.Injective QualifiedName.sql :=
  ⟨fun name _ => readIdent?_ident name, fun value _ => readLiteral?_literal value,
    ident_selfDelimiting.injective, literal_selfDelimiting.injective,
    QualifiedName.selfDelimiting.injective⟩

/-- Quotes at both ends of a name and of a literal, next to those that enclose them. -/
theorem quoted_read_back_quotes :
    ident "\"a.b\"" = "\"\"\"a.b\"\"\"" ∧
    Ends (fun c => c ≠ '"' ∧ isNameChar c = false) ['.', '"'] ∧
    readIdent? (ident "\"a.b\"" ++ String.ofList ['.', '"']) =
      some ("\"a.b\"", String.ofList ['.', '"']) ∧
    readLiteral? (literal "'x'" ++ String.ofList ['"', '\x27']) =
      some ("'x'", String.ofList ['"', '\x27']) := by
  obtain ⟨hident, hliteral, _⟩ := quoted_read_back
  have hname : Ends (fun c => c ≠ '"' ∧ isNameChar c = false) ['.', '"'] := by decide
  have hvalue : Ends (· ≠ '\x27') ['"', '\x27'] := by decide
  refine ⟨rfl, hname, hident _ _ ?_, hliteral _ _ ?_⟩
  · rwa [String.toList_ofList]
  · rwa [String.toList_ofList]

end DbConsole.Sql
