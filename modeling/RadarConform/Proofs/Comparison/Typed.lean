import RadarConform.Proofs.Comparison.Composition
import RadarConform.Proofs.Comparison.Matching
import RadarConform.Proofs.Snapshot.Document
import RadarConform.Proofs.Table.Loading

/-!
# What has a value

Attributes have values, and groups and datasets have none.  Tables and layouts are read apart from
each other, and matching brings them together; that all three agree on what has a value is what
keeps a comparison from asking for the value of a group.

* `Node.Typed` — a node that agrees with this, as `Rule.Typed` is a rule that does;
  `RuleTable.typed_of_parse` and `Layout.typed_of_parse` say that **everything that is read does**.
* `isAttribute_of_describes` — a rule for an attribute describes attributes, and any other rule
  none.
* `Rule.Admits` — what a rule may find then, with `admits_of_checkRule`: **it finds nothing else**.
* `checkRule_of_group` — **the rule of a group never fails**, whatever its constraint says.
* `compare_of_parse` — so a group that is there passes its rule, and no attribute lacks a value.
-/

namespace RadarConform

open Comparison

/-- A node that has a value exactly if it is an attribute. -/
def Node.Typed (n : Node) : Prop := n.location.isAttribute = n.value.isSome

/-- Whether a finding is about the value of a node or the kind of it. -/
def Finding.isMismatch : Finding → Bool
  | .valueMismatch .. => true
  | .kindMismatch .. => true
  | _ => false

/-- What a rule may find at typed nodes: a value or a kind of values is wrong only for an attribute,
and then there is a value. -/
def Rule.Admits (rule : Rule) : Finding → Prop
  | .missing => True
  | .valueMismatch _ _ => rule.location.isAttribute = true
  | .kindMismatch _ _ actual => rule.location.isAttribute = true ∧ actual ≠ none
  | .unexpected => False

lemma Rule.Admits.isAttribute_of_isMismatch {rule : Rule} {finding : Finding}
    (h : rule.Admits finding) (hmismatch : finding.isMismatch = true) :
    rule.location.isAttribute = true := by
  cases finding with
  | missing | unexpected => cases hmismatch
  | valueMismatch => exact h
  | kindMismatch => exact h.1

/-! ## Tables -/

/-- **Every table that is read is typed.** -/
lemma RuleTable.typed_of_parse {text path : String} {version : Option Version} {table : RuleTable}
    (h : RuleTable.parse text path version = .ok table) : ∀ rule ∈ table.rules, rule.Typed := by
  intro rule hrule
  obtain ⟨_, _, hsays⟩ := exists_row_of_parse h hrule
  exact hsays.typed

/-! ## Layouts -/

/-- **Every layout that is read is typed.** -/
lemma Layout.typed_of_parse {text path : String} {format : SnapshotFormat} {layout : Layout}
    (h : Layout.parse text format path = .ok layout) : ∀ n ∈ layout.nodes, n.Typed := by
  obtain ⟨_, -, ns, hlists, rfl⟩ := parse_eq_ok_iff.mp h
  exact (tidy_build (listable_of_lists hlists)).typed

namespace Comparison

variable {rule : Rule} {node : Node}

lemma isAttribute_of_describes (h : Naive.describes rule node = true) :
    node.location.isAttribute = rule.location.isAttribute := by
  rw [Naive.describes] at h
  split at h
  · next m hm => exact LocationMatcher.isAttribute_of_accepts hm h
  · cases h

/-! ## What a rule finds -/

/-- **A group that is there passes its rule**, whatever the constraint says. -/
lemma check_of_group (hrule : rule.Typed) (hnode : node.Typed)
    (hdescribes : Naive.describes rule node = true) (hgroup : rule.location.isAttribute = false) :
    Naive.check rule node = .ok none := by
  have hvalue : node.value = none := by
    rw [Node.Typed, isAttribute_of_describes hdescribes, hgroup] at hnode
    exact Option.isNone_iff_eq_none.mp (Option.isSome_eq_false_iff.mp hnode.symm)
  simp [Naive.check, kindFinding?, hrule hgroup, hvalue]

/-- What a rule finds at a node is about an attribute, which has a value. -/
lemma admits_of_check (hrule : rule.Typed) (hnode : node.Typed)
    (hdescribes : Naive.describes rule node = true) {finding : Finding}
    (h : Naive.check rule node = .ok (some finding)) : rule.Admits finding := by
  cases hattribute : rule.location.isAttribute with
  | false =>
      rw [check_of_group hrule hnode hdescribes hattribute] at h
      cases h
  | true =>
      rcases finding_of_check h with ⟨expected, rfl⟩ | ⟨explanation, rfl⟩
      · refine ⟨hattribute, ?_⟩
        rw [Node.Typed, isAttribute_of_describes hdescribes, hattribute] at hnode
        rw [ne_eq, Option.map_eq_none_iff, ← ne_eq, Option.ne_none_iff_isSome]
        exact hnode.symm
      · exact hattribute

variable {nodes : List Node} {options : CompareOptions}

/-- **What a rule finds** at typed nodes. -/
lemma admits_of_checkRule (hrule : rule.Typed) (hnodes : ∀ n ∈ nodes, n.Typed)
    {violations : List Violation} (h : Naive.checkRule options nodes rule = .ok violations)
    {v : Violation} (hv : v ∈ violations) : v.rule = rule ∧ rule.Admits v.finding := by
  obtain ⟨heq, ⟨hmissing, -, -⟩ | ⟨-, node, hnode, hdescribes, hcheck⟩⟩ :=
    (mem_checkRule_iff h).mp hv
  · rw [hmissing]
    exact ⟨heq, trivial⟩
  · exact ⟨heq, admits_of_check hrule (hnodes node hnode) hdescribes hcheck⟩

/-- **The rule of a group never fails.**  Its node is missing, if it must be there and is not, and
otherwise nothing is wrong. -/
lemma checkRule_of_group (hrule : rule.Typed) (hnodes : ∀ n ∈ nodes, n.Typed)
    (hgroup : rule.location.isAttribute = false) {m : LocationMatcher}
    (hm : LocationMatcher.compile rule.location = .ok m) :
    Naive.checkRule options nodes rule
      = .ok (if rule.mandatory && nodes.all (!Naive.describes rule ·)
          then [{ rule, finding := .missing }] else []) := by
  have hchecks : (Naive.hits m nodes).mapM (Naive.check rule)
      = .ok ((Naive.hits m nodes).map fun _ => none) := by
    rw [Except.mapM_eq_ok_iff, List.forall₂_map_right_iff, List.forall₂_same]
    intro node hhit
    obtain ⟨hnode, hdescribes⟩ := (mem_hits_iff hm).mp hhit
    exact check_of_group hrule (hnodes node hnode) hdescribes hgroup
  have hempty : nodes.all (!Naive.describes rule ·) = (Naive.hits m nodes).isEmpty := by
    rw [Bool.eq_iff_iff, isEmpty_hits_iff hm]
    simp
  simp only [Naive.checkRule, Naive.matcher, hm, Except.mapError_ok, Except.ok_bind, hchecks, hempty]
  cases (Naive.hits m nodes).isEmpty with
  | true => simp [pure, Except.pure]
  | false => simp [List.reduceOption, pure, Except.pure]

/-- The constraint of a group is never used, so it cannot be unusable. -/
lemma isAttribute_of_constraint_error (hrule : rule.Typed) (hnodes : ∀ n ∈ nodes, n.Typed)
    {location : Location} {text : String} {cause : ConstraintError}
    (h : Naive.checkRule options nodes rule = .error (.constraint location text cause)) :
    rule.location = location ∧ rule.constraint = text ∧ location.isAttribute = true := by
  rcases error_of_checkRule h with ⟨_, -, heq⟩ | ⟨node, hnode, hdescribes, cause, hcheck, heq⟩
  · cases heq
  · cases heq
    refine ⟨rfl, rfl, ?_⟩
    rw [← Bool.not_eq_false]
    intro hgroup
    rw [check_of_group hrule (hnodes node hnode) hdescribes hgroup] at hcheck
    cases hcheck

/-! ## All rules -/

variable {layout : Layout} {table : RuleTable} {found : List (List Violation)}

/-- A violation is an extra, or one that its rule in the table may have. -/
lemma admits_of_mem_violations (hrules : ∀ rule ∈ table.rules, rule.Typed)
    (hnodes : ∀ n ∈ layout.nodes, n.Typed) {r : Report} (h : Holds layout table options found r)
    {v : Violation} (hv : v ∈ r.violations) :
    v.finding = .unexpected ∨ v.rule ∈ table.rules ∧ v.rule.Admits v.finding := by
  cases hextra : v.isExtra with
  | true => exact .inl (beq_iff_eq.mp hextra)
  | false =>
      have hfault : v ∈ r.faults := List.mem_filter.mpr ⟨hv, by simp [hextra]⟩
      rw [h.faults_eq] at hfault
      obtain ⟨violations, hmem, hv⟩ := List.mem_flatten.mp hfault
      obtain ⟨rule, hrule, hcheck⟩ := exists_of_forall₂ h.found_eq.flip hmem
      obtain ⟨rfl, hadmits⟩ := admits_of_checkRule (hrules rule hrule) hnodes hcheck hv
      exact .inr ⟨hrule, hadmits⟩

/-! ## Tables and layouts that are read -/

/-- **Tables and layouts that are read agree on what has a value.**  In a report on them no value is
wrong for lack of one, and a value or a kind of values is wrong only for a rule of an attribute.
What a rule of a group or dataset adds to the report is that its node is missing, when it must be
there and is not, and nothing else.  A constraint that cannot be used is that of an attribute.  The
rules of groups and datasets are those of the rows for them, whatever type and possible values stand
there. -/
theorem compare_of_parse {tableText tablePath : String} {version : Option Version}
    {table : RuleTable} {text path : String} {format : SnapshotFormat} {layout : Layout}
    (htable : RuleTable.parse tableText tablePath version = .ok table)
    (hlayout : Layout.parse text format path = .ok layout) (options : CompareOptions) :
    (∀ r, (compare layout table options).outcome = .ok r →
      (∀ v ∈ r.violations, ∀ observed expected,
        v.finding ≠ .kindMismatch observed expected none) ∧
      (∀ v ∈ r.violations, v.finding.isMismatch = true →
        v.rule ∈ table.rules ∧ v.rule.location.isAttribute = true) ∧
      ∃ found, Holds layout table options found r ∧
        List.Forall₂ (fun rule violations => rule.location.isAttribute = false →
          violations = if rule.mandatory && layout.nodes.all (!Naive.describes rule ·)
            then [{ rule, finding := .missing }] else []) table.rules found) ∧
    (∀ location constraint cause,
      (compare layout table options).outcome = .error (.constraint location constraint cause) →
        location.isAttribute = true ∧
          ∃ rule ∈ table.rules, rule.location = location ∧ rule.constraint = constraint) ∧
    ∀ rule ∈ table.rules, ∃ row : RowFields, row.rule version = .ok rule ∧
      (rule.location.isAttribute = false ↔ row.IsContainer) ∧
      (row.IsContainer → ∀ valueType values,
        { row with valueType, values }.rule version = .ok { rule with constraint := values }) := by
  have hrules := RuleTable.typed_of_parse htable
  have hnodes := Layout.typed_of_parse hlayout
  refine ⟨?_, ?_, ?_⟩
  · intro r hr
    obtain ⟨found, hholds⟩ := exists_holds hr
    refine ⟨?_, ?_, found, hholds, ?_⟩
    · intro v hv observed expected heq
      rcases admits_of_mem_violations hrules hnodes hholds hv with hextra | ⟨-, hadmits⟩
      · rw [hextra] at heq
        cases heq
      · rw [heq] at hadmits
        exact hadmits.2 rfl
    · intro v hv hmismatch
      rcases admits_of_mem_violations hrules hnodes hholds hv with hextra | ⟨hrule, hadmits⟩
      · rw [hextra] at hmismatch
        cases hmismatch
      · exact ⟨hrule, hadmits.isAttribute_of_isMismatch hmismatch⟩
    · refine ((List.forall₂_and_left _ _).mpr ⟨hrules, hholds.found_eq⟩).imp ?_
      rintro rule violations ⟨hrule, hcheck⟩ hgroup
      obtain ⟨m, hm, -⟩ := Except.bind_eq_ok_iff.mp hcheck
      rw [Naive.matcher, Except.mapError_eq_ok_iff] at hm
      rw [checkRule_of_group hrule hnodes hgroup hm] at hcheck
      exact (Except.ok.inj hcheck).symm
  · intro location constraint cause he
    rw [outcome_compare_eq_error_iff] at he
    obtain ⟨rule, hrule, he⟩ := Except.exists_of_mapM_eq_error he
    obtain ⟨rfl, rfl, hattribute⟩ := isAttribute_of_constraint_error (hrules rule hrule) hnodes he
    exact ⟨hattribute, rule, hrule, rfl, rfl⟩
  · intro rule hrule
    obtain ⟨row, category, hsays⟩ := RuleTable.exists_row_of_parse htable hrule
    refine ⟨row, RowFields.rule_eq_ok_iff.mpr ⟨category, hsays⟩, hsays.isAttribute_eq_false_iff, ?_⟩
    intro hrow valueType values
    exact RowFields.rule_eq_ok_iff.mpr ⟨category, hsays.retyped hrow valueType values⟩

/-- A table with rows of groups that ask for what only an attribute can have. -/
def containerTableText : String :=
  "Node;Category;Type;IsMandatory;PossibleValues\n" ++
  "/how;Group;no kind;TRUE;((\n" ++
  "/data;dataset;string;yes;> 1\n" ++
  "/where/height;attribute;number;1;\n"

/-- The rules of that table. -/
def containerTable : RuleTable :=
  { version := none, product := none, rules := [
      { location := .container ["how"], mandatory := true, constraint := "((", version := none,
        kind := none, description := "" },
      { location := .container ["data"], mandatory := true, constraint := "> 1", version := none,
        kind := none, description := "" },
      { heightRule with mandatory := true }] }

/-- A snapshot with one of the groups, and with a text for the number. -/
def heightText : String := "\x7b\"/how\": null, \"/where/height\": \"low\"\x7d"

/-- The layout of that snapshot. -/
def heightLayout : Layout :=
  { nodes := [
      { location := .container ["how"], value := none, implied := false },
      { location := .container ["where"], value := none, implied := true },
      textNode "where" "height" "low"] }

/-- The group that is there passes, the one that is not is missing, and the text is found to be one.
-/
theorem compare_of_parse_containerTable :
    RuleTable.parse containerTableText "t.csv" none = .ok containerTable ∧
      Layout.parse heightText .json "snap" = .ok heightLayout ∧
      ∃ r, (compare heightLayout containerTable .standard).outcome = .ok r ∧
        r.violations.map (·.finding)
          = [.missing, .kindMismatch (.ofAttribute ["where"] "height") .number (some .text)] ∧
        ∀ v ∈ r.violations, v.finding.isMismatch = true →
          v.rule ∈ containerTable.rules ∧ v.rule.location.isAttribute = true := by
  have htable : RuleTable.parse containerTableText "t.csv" none = .ok containerTable :=
    Except.toOption_eq_some_iff.mp (by decide +kernel)
  have hlayout : Layout.parse heightText .json "snap" = .ok heightLayout :=
    Except.toOption_eq_some_iff.mp (by decide +kernel)
  have hreport : ((compare heightLayout containerTable .standard).outcome.toOption.map
      fun r => r.violations.map (·.finding)) = some [.missing,
        .kindMismatch (.ofAttribute ["where"] "height") .number (some .text)] := by
    rw [outcome_compare_found]
    decide +kernel
  obtain ⟨r, hr, hfindings⟩ := Option.map_eq_some_iff.mp hreport
  rw [Except.toOption_eq_some_iff] at hr
  obtain ⟨-, hmismatch, -⟩ := (compare_of_parse htable hlayout .standard).1 r hr
  exact ⟨htable, hlayout, r, hr, hfindings, hmismatch⟩

end Comparison

end RadarConform
