import RadarConform.Event
import RadarConform.Rule
import RadarConform.Table.Error
import RadarConform.Table.Name

/-!
# Reading rule tables

A table is a text of records.  Its first line that is neither blank nor a comment names the
columns; every later one is a rule.

* `Columns`: the places of the columns.
* `RuleTable.parse`: the table of a text.
* `RuleTable.load`: the table of a file, with the revision and product that its name tells.
-/

namespace RadarConform

/-! ## Lines -/

/-- A line without the carriage return at its end. -/
def dropReturn (line : List Char) : List Char :=
  if line.getLast? = some '\r' then line.dropLast else line

/-- The lines of a text: a line feed ends a line, together with a carriage return before it; after
the last line feed there is no further line unless something stands there. -/
def linesOf (cs : List Char) : List (List Char) :=
  let ps := Text.pieces (· == '\n') cs
  let last := ps.getLast?.getD []
  ps.dropLast.map dropReturn ++ (if last = [] then [] else [last])

/-- A line without the byte order marks at its start. -/
def dropMarks (line : List Char) : List Char := line.dropWhile (· == '\ufeff')

/-- Whether a line holds a record: it is not blank, and no comment. -/
def isRecord (line : List Char) : Bool :=
  match Text.trim line with
  | [] => false
  | c :: _ => c != '#'

/-- Lines with their numbers. -/
def numberedFrom (n : Nat) : List (List Char) → List (Nat × List Char)
  | [] => []
  | line :: rest => (n, line) :: numberedFrom (n + 1) rest

/-- The lines of a table that hold records, with their numbers. -/
def recordLines (text : String) : List (Nat × List Char) :=
  (numberedFrom 1 ((linesOf text.toList).map dropMarks)).filter (isRecord ·.2)

/-! ## Columns -/

/-- The places of the columns in the records of a table. -/
structure Columns where
  node : Nat
  category : Nat
  valueType : Nat
  mandatory : Nat
  values : Nat
  description : Option Nat
deriving DecidableEq

namespace Columns

/-- Whether a header field is the name of a column; white space around it and case do not count. -/
def isNamed (name field : String) : Bool :=
  (Text.trim field.toList).map Char.toLower == name.toList.map Char.toLower

/-- The place of a column. -/
def find? (header : List String) (name : String) : Option Nat :=
  header.findIdx? (isNamed name)

/-- The place of a column that a table must have. -/
def require (path : String) (header : List String) (name : String) : Except TableError Nat :=
  match find? header name with
  | some i => .ok i
  | none => .error (.missingColumn path name)

/-- The places of the columns that a header names. -/
def ofHeader (path : String) (header : List String) : Except TableError Columns := do
  let node ← require path header "Node"
  let category ← require path header "Category"
  let valueType ← require path header "Type"
  let mandatory ← require path header "IsMandatory"
  let values ← require path header "PossibleValues"
  return { node, category, valueType, mandatory, values, description := find? header "Description" }

/-- The least number of fields that a record must have. -/
def width (c : Columns) : Nat :=
  max c.node (max c.category (max c.valueType (max c.mandatory c.values))) + 1

end Columns

/-! ## Rows -/

/-- What a row describes. -/
inductive Category where
  | group
  | dataset
  | attr
deriving DecidableEq

namespace Category

/-- Reads the category of a row. -/
def parse? (field : String) : Option Category :=
  match ValueKind.folded field with
  | "group" => some .group
  | "dataset" => some .dataset
  | "attribute" => some .attr
  | _ => none

end Category

/-- Reads a flag. -/
def flag? (field : String) : Option Bool :=
  match ValueKind.folded field with
  | "true" | "yes" | "1" => some true
  | "false" | "no" | "0" => some false
  | _ => none

/-- The location of a row, in the notation that its category calls for. -/
def Category.location (category : Category) (node : String) : Except LocationError Location :=
  if category = .attr then Location.parseAttribute node else Location.parse node

/-- The kind of values that a row declares.  Only attributes have values, and they need not declare
their kind. -/
def Category.kind (category : Category) (field : String) : Except RowFault (Option ValueKind) :=
  if category ≠ .attr ∨ Text.isBlankText field then .ok none
  else ((ValueKind.parse field).map some).mapError .valueType

/-- The fields of a row that a rule is made of, as they stand in the table. -/
structure RowFields where
  node : String
  category : String
  valueType : String
  mandatory : String
  values : String
  description : String
deriving DecidableEq

/-- The fields of a record in their places; nothing when the record is too short. -/
def Columns.pick? (c : Columns) (fields : List String) : Option RowFields :=
  if h : c.width ≤ fields.length then
    have hnode : c.node < fields.length := by unfold Columns.width at h; omega
    have hcategory : c.category < fields.length := by unfold Columns.width at h; omega
    have htype : c.valueType < fields.length := by unfold Columns.width at h; omega
    have hmandatory : c.mandatory < fields.length := by unfold Columns.width at h; omega
    have hvalues : c.values < fields.length := by unfold Columns.width at h; omega
    some {
      node := fields[c.node], category := fields[c.category], valueType := fields[c.valueType],
      mandatory := fields[c.mandatory], values := fields[c.values],
      description := (c.description.bind (fields[·]?)).getD "" }
  else none

/-- The rule of a row. -/
def RowFields.rule (row : RowFields) (version : Option Version) : Except RowFault Rule :=
  match Category.parse? row.category with
  | none => .error (.category row.category)
  | some category => do
    let location ← (category.location row.node).mapError .location
    if category ≠ .attr ∧ location.isAttribute then
      .error (.namesAttribute row.node (ValueKind.folded row.category))
    else
      match flag? row.mandatory with
      | none => .error (.flag row.mandatory)
      | some mandatory =>
        let kind ← category.kind row.valueType
        return { location, mandatory, constraint := row.values, version, kind,
                 description := row.description }

/-- The rule of a line. -/
def ruleOfLine (columns : Columns) (version : Option Version) (line : List Char) :
    Except RowFault Rule := do
  let fields ← (Record.split line).mapError .record
  match columns.pick? fields with
  | none => .error (.tooFewFields columns.width fields.length)
  | some row => row.rule version

/-- The rules of the lines after the header, up to the first one at fault. -/
def rulesOfLines (path : String) (columns : Columns) (version : Option Version) :
    List (Nat × List Char) → Except TableError (List Rule)
  | [] => .ok []
  | (n, line) :: rest => do
    let rule ← (ruleOfLine columns version line).mapError (.row path n)
    return rule :: (← rulesOfLines path columns version rest)

namespace RuleTable

/-- Reads a table; `path` names it in errors, and `version` is stamped on every rule. -/
def parse (text path : String) (version : Option Version) : Except TableError RuleTable :=
  match recordLines text with
  | [] => .error (.empty path)
  | (n, header) :: rows => do
    let header ← (Record.split header).mapError fun e => .row path n (.record e)
    let columns ← Columns.ofHeader path header
    let rules ← rulesOfLines path columns version rows
    return { version := none, product := none, rules }

/-- The table with the revision and product that a name tells. -/
def named (t : RuleTable) : Option TableName → RuleTable
  | some name => { t with version := some name.version, product := some name.product }
  | none => t

/-- Loads the table of a file.  A name out of convention tells neither revision nor product, which
is worth a warning. -/
def load (store : FileStore) (path : FilePath) : Logged TableError RuleTable := do
  let text ← (store.read path).mapError (TableError.unreadable path.shown)
  let name := TableName.ofPath? path
  .reportIf name.isNone (.unconventionalName path.shown)
  let table ← RuleTable.parse text path.shown (name.map (·.version))
  let table := table.named name
  .report (.loadedTable path.shown table.rules.length table.mandatoryCount)
  return table

end RuleTable

end RadarConform
