import RadarConform.Comparison.Report
import RadarConform.Json.Basic
import RadarConform.Layout

/-!
# JSON form of loaded data

Rules, nodes and reports have a JSON form.  Locations, revisions and kinds stand in it as texts,
the value of a node as a string, a number or a list of numbers.  Parts that a rule or node may do
without are left out when there is nothing to tell.

* `Rule.json`, `RuleTable.json`, `Node.json`, `Layout.json`, `CompareOptions.json`, `Report.json`.
-/

namespace RadarConform

/-- An entry that is left out when there is nothing to tell. -/
def optionalEntry (key : String) (value : Option Json) : List (String × Json) :=
  match value with
  | some v => [(key, v)]
  | none => []

/-- The JSON form of an attribute value. -/
def AttributeValue.json : AttributeValue → Json
  | text s => .text s
  | number x => .real x
  | sequence xs => .list (xs.map .real)

/-- The JSON form of a rule. -/
def Rule.json (r : Rule) : Json :=
  .record (
    [("location", .text r.location.text), ("mandatory", .bool r.mandatory),
      ("constraint_text", .text r.constraint)]
    ++ optionalEntry "standard_version" (r.version.map (.text ·.text))
    ++ optionalEntry "expected_kind" (r.kind.map (.text ·.name))
    ++ optionalEntry "description"
        (if r.description = "" then none else some (.text r.description)))

/-- The JSON form of a rule table. -/
def RuleTable.json (t : RuleTable) : Json :=
  .record (
    optionalEntry "version" (t.version.map (.text ·.text))
    ++ optionalEntry "product" (t.product.map .text)
    ++ [("entries", .list (t.rules.map Rule.json))])

/-- The JSON form of a node. -/
def Node.json (n : Node) : Json :=
  .record (
    [("location", .text n.location.text)]
    ++ optionalEntry "value" (n.value.map AttributeValue.json)
    ++ optionalEntry "implied" (if n.implied then some (.bool true) else none))

/-- The JSON form of a layout. -/
def Layout.json (l : Layout) : Json := .record [("nodes", .list (l.nodes.map Node.json))]

/-- The JSON form of options. -/
def CompareOptions.json (o : CompareOptions) : Json :=
  .record [
    ("check_optional", .bool o.checkOptional),
    ("check_extras", .bool o.checkExtras),
    ("diagnostics", .record [("info", .bool o.info)])]

/-- The entries that tell in what way a rule fails. -/
def Finding.entries : Finding → List (String × Json)
  | missing => [("kind", .text "missing")]
  | valueMismatch observed explanation =>
    [("kind", .text "value_mismatch"), ("observed", .text observed.text),
      ("explanation", .text explanation)]
  | kindMismatch observed expected actual =>
    [("kind", .text "kind_mismatch"), ("observed", .text observed.text),
      ("expected", .text expected.name),
      ("actual", match actual with
        | some kind => .text kind.name
        | none => .null)]
  | unexpected => [("kind", .text "unexpected")]

/-- The JSON form of a violation. -/
def Violation.json (v : Violation) : Json :=
  .record (("entry", v.rule.json) :: v.finding.entries)

/-- The JSON form of a report. -/
def Report.json (r : Report) : Json :=
  .record [
    ("compliant", .bool r.isCompliant),
    ("rules_checked", .integer r.rulesChecked),
    ("nodes_observed", .integer r.nodesObserved),
    ("violations", .list (r.violations.map Violation.json))]

end RadarConform
