import RadarConform.Proofs.Table.Lines
import RadarConform.Proofs.Table.Loading

/-!
# Reading a table line by line

The first record of a table is its header, and every later one is read for itself: no other record
has a part in it but the header.  So a table is read completely or not at all, and an error is that
of the first record at fault.

* `TableError.renumbered`, `ReadsRecords.renumbered` — the numbers of the records show in errors and
  nowhere else.
* `RuleTable.parse_linewise` — **a table is read line by line**, and further lines that say nothing,
  byte order marks and carriage returns at the ends of lines do no more than move an error.
-/

namespace RadarConform

/-- The same error with the lines of the table numbered anew. -/
def TableError.renumbered (f : Nat → Nat) : TableError → TableError
  | .row path n fault => .row path (f n) fault
  | .unreadable path cause => .unreadable path cause
  | .empty path => .empty path
  | .missingColumn path column => .missingColumn path column
  | .unresolvable fault => .unresolvable fault

namespace RuleTable

variable {text text' path : String} {version : Option Version}

/-- **The numbers of the records show in errors only.** -/
lemma ReadsRecords.renumbered {records : List (Nat × List Char)} {r : Except TableError RuleTable}
    (h : ReadsRecords path version records r) (f : Nat → Nat) :
    ReadsRecords path version (records.map fun record => (f record.1, record.2))
      (r.mapError (·.renumbered f)) := by
  cases h with
  | empty => exact .empty
  | header hsplit => exact .header hsplit
  | @column header _ _ _ hsplit hmissing =>
      exact @ReadsRecords.column _ _ (f header.1, header.2) _ _ _ hsplit hmissing
  | @row header before after fields columns n line fault hsplit hnamed hbefore hfault =>
      rw [List.map_cons, List.map_append, List.map_cons]
      refine @ReadsRecords.row _ _ (f header.1, header.2) _ _ _ _ _ _ _ hsplit hnamed ?_ hfault
      intro row hrow
      obtain ⟨row, hmem, rfl⟩ := List.mem_map.mp hrow
      exact hbefore row hmem
  | @table header _ _ _ _ hsplit hnamed hrules =>
      exact @ReadsRecords.table _ _ (f header.1, header.2) _ _ _ _ hsplit hnamed
        (List.forall₂_map_left_iff.mpr hrules)

/-- Further lines that say nothing do no more than move an error. -/
lemma parse_of_interspersed {gaps : List Nat}
    (h : Interspersed gaps (linesOf text.toList) (linesOf text'.toList)) :
    RuleTable.parse text' path version
      = (RuleTable.parse text path version).mapError (·.renumbered (shifted gaps)) := by
  rw [parse_eq_iff, recordLines_of_interspersed h]
  exact (parse_eq_iff.mp rfl).renumbered (shifted gaps)

/-- **A table is read line by line, completely or not at all.**  Its records are the lines that are
neither blank nor comments, with the numbers that they have among all lines.  There is none of them;
or the first is no record or lacks a column, the first of the columns that a table must have; or the
header is good and a later record is at fault, the first one of them; or every later record is a
rule, and these rules are the table.  Each record is read for itself, under the header alone, and no
column is looked up outside of a record.  So a text with the same lines, among further lines that
say nothing, after further byte order marks and with any ends, is read in the same way, but for an
error in a line, which moves by the number of further lines before it. -/
theorem parse_linewise (text path : String) (version : Option Version) :
    TextOf (linesOf text.toList) text.toList ∧
      RecordsOf (linesOf text.toList) (recordLines text) ∧
      (∀ r, RuleTable.parse text path version = r ↔
        ReadsRecords path version (recordLines text) r) ∧
      (∀ line fields columns, Record.split line = .ok fields →
        (fields.length < columns.width ∧ ruleOfLine columns version line
            = .error (.tooFewFields columns.width fields.length)) ∨
          ∃ row, columns.Picks fields row ∧ ruleOfLine columns version line = row.rule version) ∧
      ∀ gaps lines' text', Interspersed gaps (linesOf text.toList) lines' →
        TextOf lines' text'.toList → RuleTable.parse text' path version
          = (RuleTable.parse text path version).mapError (·.renumbered (shifted gaps)) := by
  refine ⟨textOf_linesOf _, recordsOf_recordLines text, fun r => parse_eq_iff,
    fun line fields columns h => ruleOfLine_of_split h columns version,
    fun gaps lines' text' hlines htext => ?_⟩
  rw [← htext.linesOf_eq] at hlines
  exact parse_of_interspersed hlines

/-- A table whose only row is at fault. -/
def faultyText : String :=
  "Node;Category;Type;IsMandatory;PossibleValues\n/what;group;;maybe;"

/-- The same table with blank lines and comments in every place, marks before the header and before
a comment, and carriage returns at the ends of some lines. -/
def scatteredText : String :=
  "\r\n\ufeff # rules\n\ufeff\ufeffNode;Category;Type;IsMandatory;PossibleValues\r\n" ++
    "#;\n/what;group;;maybe;\r\n\t"

/-- The fault moves by the three lines before it, and not by the one after it. -/
theorem parse_linewise_scattered :
    RuleTable.parse faultyText "t.csv" none = .error (.row "t.csv" 2 (.flag "maybe")) ∧
      RuleTable.parse scatteredText "t.csv" none = .error (.row "t.csv" 5 (.flag "maybe")) := by
  have hfaulty : RuleTable.parse faultyText "t.csv" none
      = .error (.row "t.csv" 2 (.flag "maybe")) := by
    decide +kernel
  have hlines : linesOf faultyText.toList = ["Node;Category;Type;IsMandatory;PossibleValues".toList,
      "/what;group;;maybe;".toList] := by
    decide +kernel
  have hbetween : Interspersed [1] ["/what;group;;maybe;".toList]
      ["#;".toList, "/what;group;;maybe;".toList, ['\t']] :=
    @Interspersed.line ["#;".toList] _ _ _ [] _ (by decide +kernel) (by decide)
      (@Interspersed.last [['\t']] (by decide))
  have hscattered := @Interspersed.line [[], "\ufeff # rules".toList] _ _
    "Node;Category;Type;IsMandatory;PossibleValues".toList ['\ufeff', '\ufeff'] _
    (by decide +kernel) (by decide) hbetween
  obtain ⟨-, -, -, -, hmoved⟩ := parse_linewise faultyText "t.csv" none
  rw [hlines, hfaulty] at hmoved
  refine ⟨hfaulty, hmoved _ _ scatteredText hscattered (linesOf_eq_iff.mp ?_)⟩
  decide +kernel

end RuleTable

end RadarConform
