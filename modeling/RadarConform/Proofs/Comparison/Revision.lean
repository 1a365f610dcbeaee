import RadarConform.Proofs.Comparison.Composition
import RadarConform.Proofs.FileStore
import RadarConform.Proofs.Table.Loading

/-!
# The revision of a report

The revision that the name of a table tells reaches a report on three ways: it is stamped on every
rule when the rows are read, it is put on the table afterwards, and the rules that stand for nodes
which no rule describes take it from the table.

* `origin_of_mem_violations` — **where a violation comes from**: a rule of the table, or a node of
  the layout that no rule describes.
* `revision_of_load` — **everything in a report carries the revision of the name**, or nothing does
  if the name is out of convention.
-/

namespace RadarConform

namespace Comparison

/-! ## Where violations come from -/

/-- **A violation comes from a rule or from a node.**  In a report every violation is one of a rule of
the table, or that of a node which is listed and which no rule describes. -/
lemma origin_of_mem_violations {layout : Layout} {table : RuleTable} {options : CompareOptions}
    {r : Report} (h : (compare layout table options).outcome = .ok r) {v : Violation}
    (hv : v ∈ r.violations) :
    (v.rule ∈ table.rules ∧ v.finding ≠ .unexpected) ∨
      ∃ node ∈ layout.nodes, node.implied = false ∧
        (∀ rule ∈ table.rules, Naive.describes rule node = false) ∧
        v = node.asExtra table.version := by
  rcases source_of_mem_violations h hv with ⟨rule, hrule, _, hcheck, hmem⟩ | hextra
  · have hfinding := isExtra_of_checkRule hcheck hmem
    obtain ⟨rfl, -⟩ := (mem_checkRule_iff hcheck).mp hmem
    exact .inl ⟨hrule, beq_eq_false_iff_ne.mp hfinding⟩
  · exact .inr hextra

/-- **Everything in a report carries the revision of the table.**  The name of the file from which a
table was loaded tells a revision, or none if it is out of convention.  That is the revision of the
table, of each of its rules, and of the rule of each violation in each report on any layout.  The
rule of a violation for a node that no rule describes is made for it: it is optional, asks for
presence only, and has the location of a node of the layout. -/
theorem revision_of_load {store : FileStore} {path : FilePath} {table : RuleTable}
    (h : (RuleTable.load store path).outcome = .ok table) :
    table.version = (TableName.ofPath? path).map (·.version) ∧
      (∀ rule ∈ table.rules, rule.version = (TableName.ofPath? path).map (·.version)) ∧
      ∀ (layout : Layout) (options : CompareOptions) (r : Report),
        (compare layout table options).outcome = .ok r → ∀ v ∈ r.violations,
          v.rule.version = (TableName.ofPath? path).map (·.version) ∧
            (v.finding = .unexpected → v.rule.mandatory = false ∧ v.rule.isPresenceOnly = true ∧
              ∃ node ∈ layout.nodes, node.location = v.rule.location) := by
  have hversion := RuleTable.version_of_load h
  refine ⟨hversion, fun rule hrule => RuleTable.rule_version_of_load h hrule, ?_⟩
  intro layout options r hr v hv
  rcases origin_of_mem_violations hr hv with ⟨hrule, hfinding⟩ | ⟨node, hnode, -, -, rfl⟩
  · exact ⟨RuleTable.rule_version_of_load h hrule, fun hunexpected => absurd hunexpected hfinding⟩
  · exact ⟨hversion, fun _ => ⟨rfl, rfl, node, hnode, rfl⟩⟩

/-! ## A table under two names -/

/-- One table under a name within the convention and under one that is not. -/
def twoNamesStore : FileStore := .ofList [
  ("ODIM_H5_V2_1_SCAN.csv",
    some "Node;Category;Type;IsMandatory;PossibleValues\n/what/source;attribute;string;TRUE;"),
  ("scan.csv",
    some "Node;Category;Type;IsMandatory;PossibleValues\n/what/source;attribute;string;TRUE;")]

/-- The table as it is loaded under a name that tells the revision, the product or neither. -/
def sourceTable (version : Option Version) (product : Option String) : RuleTable :=
  { version, product, rules := [
      { location := .ofAttribute ["what"] "source", mandatory := true, constraint := "", version,
        kind := some .text, description := "" }] }

/-- A layout without the attribute that the rule asks for, and with another one. -/
def objectLayout : Layout :=
  { nodes := [{ location := .ofAttribute ["what"] "object", value := some (.text "SCAN"),
                implied := false }] }

/-- Under either name the attribute is missing and the other one is extra. -/
theorem revision_of_load_twoNames : ∃ table bare,
    (RuleTable.load twoNamesStore "ODIM_H5_V2_1_SCAN.csv").outcome = .ok table ∧
      (RuleTable.load twoNamesStore "scan.csv").outcome = .ok bare ∧
      (∃ r, (compare objectLayout table .strict).outcome = .ok r ∧
        r.violations.map (·.finding) = [.missing, .unexpected] ∧
        ∀ v ∈ r.violations, v.rule.version = some ⟨2, 1⟩) ∧
      ∃ r, (compare objectLayout bare .strict).outcome = .ok r ∧
        r.violations.map (·.finding) = [.missing, .unexpected] ∧
        ∀ v ∈ r.violations, v.rule.version = none := by
  have hload : (RuleTable.load twoNamesStore "ODIM_H5_V2_1_SCAN.csv").outcome
      = .ok (sourceTable (some ⟨2, 1⟩) (some "SCAN")) :=
    Except.toOption_eq_some_iff.mp (by decide +kernel)
  have hbare : (RuleTable.load twoNamesStore "scan.csv").outcome = .ok (sourceTable none none) :=
    Except.toOption_eq_some_iff.mp (by decide +kernel)
  have hreport (version : Option Version) (product : Option String) :
      ∃ r, (compare objectLayout (sourceTable version product) .strict).outcome = .ok r ∧
        r.violations.map (·.finding) = [.missing, .unexpected] := by
    rw [outcome_compare_found]
    exact ⟨_, rfl, rfl⟩
  obtain ⟨r, hr, hfindings⟩ := hreport (some ⟨2, 1⟩) (some "SCAN")
  obtain ⟨r', hr', hfindings'⟩ := hreport none none
  have hversion : TableName.ofPath? "ODIM_H5_V2_1_SCAN.csv"
      = some { family := "ODIM_H5", version := ⟨2, 1⟩, product := "SCAN" } := by decide +kernel
  have hnone : TableName.ofPath? "scan.csv" = none := by decide +kernel
  refine ⟨_, _, hload, hbare, ⟨r, hr, hfindings, fun v hv => ?_⟩,
    ⟨r', hr', hfindings', fun v hv => ?_⟩⟩
  · have hrevision := ((revision_of_load hload).2.2 _ _ r hr v hv).1
    rwa [hversion] at hrevision
  · have hrevision := ((revision_of_load hbare).2.2 _ _ r' hr' v hv).1
    rwa [hnone] at hrevision

end Comparison

end RadarConform
