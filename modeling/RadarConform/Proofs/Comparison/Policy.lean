import Mathlib.Data.List.Basic
import RadarConform.Proofs.Comparison.Run

/-!
# Policies

What counts as a violation is a policy: failing optional rules count when they are asked for, and so
do nodes that no rule describes.  A policy does not change what is looked at.

* `CompareOptions.counts`, `Report.under` — a violation that counts under a policy, and a report
  without those that do not.
* `AtMost` — a policy that asks for no more than another one.
* `compare_under` — **a comparison under any policy is the strict one with its violations
  filtered**; so policies share their errors, and asking for more only adds violations.

**The argument.**  A failing node yields a violation of its rule, which counts exactly when the rule
is enforced (`counts_of_outcome_checkNode`).  So filtering commutes with the check of a rule's hits,
of one rule and of all rules, and the places that are marked as described never depend on it.
-/

namespace RadarConform

/-- Whether a violation counts under a policy. -/
def CompareOptions.counts (o : CompareOptions) (v : Violation) : Bool :=
  match v.finding with
  | .unexpected => o.checkExtras
  | _ => v.rule.mandatory || o.checkOptional

/-- A report with the violations that count under a policy. -/
def Report.under (o : CompareOptions) (r : Report) : Report :=
  { r with violations := r.violations.filter o.counts }

/-- A policy that asks for no more than another one. -/
def CompareOptions.AtMost (o p : CompareOptions) : Prop :=
  (o.checkOptional = true → p.checkOptional = true) ∧ (o.checkExtras = true → p.checkExtras = true)

namespace Comparison

variable (o : CompareOptions)

/-! ## One rule -/

/-- **What counts at one node.**  A node that fails a rule counts exactly when the rule is
enforced. -/
lemma counts_of_outcome_checkNode {info : Bool} {rule : Rule} {node : Node} {finding : Finding}
    (h : (checkNode info rule node).outcome = .ok (some finding)) :
    o.counts { rule, finding } = (rule.mandatory || o.checkOptional) := by
  rw [outcome_checkNode, Except.mapError_eq_ok_iff] at h
  rcases finding_of_check h with ⟨expected, rfl⟩ | ⟨explanation, rfl⟩
  · rfl
  · rfl

/-- The violations of a rule's hits, filtered by what counts, are those of the enforced rule or
none. -/
lemma outcome_checkHits_counts (info : Bool) (rule : Rule) (ps : List Placed) :
    (checkHits o.info rule (rule.mandatory || o.checkOptional) ps).outcome
      = (checkHits info rule true ps).outcome.map (List.filter o.counts) := by
  induction ps with
  | nil => rfl
  | cons p rest ih =>
      have hnode :
          (checkNode o.info rule p.node).outcome = (checkNode info rule p.node).outcome := by
        rw [outcome_checkNode, outcome_checkNode]
      simp only [checkHits, Logged.outcome_bind, Logged.outcome_pure, ih, hnode]
      cases hcheck : (checkNode info rule p.node).outcome with
      | error e => rfl
      | ok finding =>
          cases (checkHits info rule true rest).outcome with
          | error e => rfl
          | ok later =>
              cases finding with
              | none => rfl
              | some finding =>
                  have hcounts := counts_of_outcome_checkNode o hcheck
                  simp [hcounts, List.filter_cons]

variable (index : Std.HashMap Location (List Placed)) (nodes : List Placed)

/-- What a rule finds under a policy: what it finds under the strict one, filtered, and the same
described nodes. -/
lemma outcome_checkRule_counts (rule : Rule) :
    (checkRule o index nodes rule).outcome
      = (checkRule .strict index nodes rule).outcome.map
          (Prod.map (List.filter o.counts) id) := by
  simp only [checkRule, Logged.outcome_bind, Logged.outcome_liftM]
  cases LocationMatcher.compile rule.location with
  | error e => rfl
  | ok m =>
      simp only [Except.mapError_ok, Except.bind_ok, Logged.outcome_reportIf]
      cases hitsOf m index nodes with
      | nil =>
          cases hmandatory : rule.mandatory with
          | false => simp
          | true => simp [CompareOptions.counts, hmandatory]
      | cons p rest =>
          have hhits := outcome_checkHits_counts o CompareOptions.strict.info rule (p :: rest)
          have hstrict : (rule.mandatory || CompareOptions.strict.checkOptional) = true := by
            simp [CompareOptions.strict]
          simp only [List.isEmpty_cons, Bool.false_eq_true, if_false, Logged.outcome_bind, hhits,
            hstrict]
          cases (checkHits CompareOptions.strict.info rule true (p :: rest)).outcome with
          | error e => rfl
          | ok violations => rfl

/-! ## All rules -/

/-- What all rules find under a policy. -/
lemma outcome_checkRules_counts (rules : List Rule) :
    (checkRules o index nodes rules).outcome
      = (checkRules .strict index nodes rules).outcome.map
          (Prod.map (List.filter o.counts) id) := by
  induction rules with
  | nil => rfl
  | cons rule rest ih =>
      simp only [checkRules, Logged.outcome_bind, Logged.outcome_pure, ih,
        outcome_checkRule_counts o index nodes rule]
      cases (checkRule .strict index nodes rule).outcome with
      | error e => rfl
      | ok found =>
          cases (checkRules .strict index nodes rest).outcome with
          | error e => rfl
          | ok later => simp [List.filter_append]

/-- All extras count, or none does. -/
lemma filter_counts_undescribed (version : Option Version) (places : List Nat) :
    (undescribed version nodes places).filter o.counts
      = if o.checkExtras then undescribed version nodes places else [] := by
  have hcounts : ∀ v ∈ undescribed version nodes places, o.counts v = o.checkExtras := by
    simp only [undescribed, List.forall_mem_map]
    exact fun _ _ => rfl
  cases hextras : o.checkExtras with
  | false => exact List.filter_eq_nil_iff.mpr fun v hv => by simp [hcounts v hv, hextras]
  | true => exact List.filter_eq_self.mpr fun v hv => by simp [hcounts v hv, hextras]

/-- The strict comparison decides every other one. -/
lemma outcome_compare_under (layout : Layout) (table : RuleTable) :
    (compare layout table o).outcome
      = (compare layout table .strict).outcome.map (Report.under o) := by
  simp only [outcome_compare, outcome_checkRules_counts o]
  cases (checkRules .strict (indexed (placedFrom 0 layout.nodes)) (placedFrom 0 layout.nodes)
      table.rules).outcome with
  | error e => rfl
  | ok found =>
      simp only [Except.map_ok_eq, Prod.map, id_eq, Report.under, List.filter_append,
        CompareOptions.strict, if_true, filter_counts_undescribed]

lemma error_iff_of_policy (p : CompareOptions) (layout : Layout) (table : RuleTable)
    (e : CompareError) :
    (compare layout table o).outcome = .error e ↔ (compare layout table p).outcome = .error e := by
  rw [outcome_compare_under o, outcome_compare_under p, Except.map_eq_error_iff,
    Except.map_eq_error_iff]

variable {o} in
/-- What counts under a policy counts under every policy that asks for more. -/
lemma counts_of_atMost {p : CompareOptions} (h : o.AtMost p) {v : Violation}
    (hv : o.counts v = true) : p.counts v = true := by
  obtain ⟨rule, finding⟩ := v
  cases finding with
  | unexpected => exact h.2 hv
  | missing | valueMismatch | kindMismatch =>
      simp only [CompareOptions.counts, Bool.or_eq_true] at hv ⊢
      exact hv.imp_right h.1

variable {o} in
/-- A policy that asks for more keeps every violation. -/
lemma sublist_of_atMost {p : CompareOptions} (h : o.AtMost p) (r : Report) :
    (r.under o).violations.Sublist (r.under p).violations :=
  List.monotone_filter_right r.violations fun _ => counts_of_atMost h

/-- **Policies filter the strict report.**  Under any policy the comparison ends as the strict one
does: with the same error, or with its report less the violations that do not count.  So all
policies fail together, whether single steps are reported changes nothing, and a policy that asks
for more keeps every violation, so that no layout becomes compliant by it. -/
theorem compare_under (layout : Layout) (table : RuleTable) :
    (∀ o, (compare layout table o).outcome
        = (compare layout table .strict).outcome.map (Report.under o)) ∧
      (∀ o p e, (compare layout table o).outcome = .error e ↔
        (compare layout table p).outcome = .error e) ∧
      (∀ o info, (compare layout table { o with info }).outcome
        = (compare layout table o).outcome) ∧
      ∀ o p, o.AtMost p → ∀ r s, (compare layout table o).outcome = .ok r →
        (compare layout table p).outcome = .ok s →
          r.violations.Sublist s.violations ∧ (r.isCompliant = false → s.isCompliant = false) := by
  refine ⟨fun o => outcome_compare_under o layout table,
    fun o p e => error_iff_of_policy o p layout table e, ?_, ?_⟩
  · intro o info
    rw [outcome_compare_under, outcome_compare_under o]
    rfl
  · intro o p h r s hr hs
    rw [outcome_compare_under, Except.map_eq_ok_iff] at hr hs
    obtain ⟨strict, hstrict, rfl⟩ := hr
    obtain ⟨strict', hstrict', rfl⟩ := hs
    rw [hstrict] at hstrict'
    cases hstrict'
    have hsublist := sublist_of_atMost h strict
    refine ⟨hsublist, fun hr => ?_⟩
    rw [Report.isCompliant, Bool.eq_false_iff, ne_eq, List.isEmpty_iff] at hr ⊢
    exact fun hs => hr (List.sublist_nil.mp (hs ▸ hsublist))

/-- A layout with a text where a table asks for a number, and with an attribute it does not know. -/
def oddLayout : Layout :=
  { nodes := [
      { location := .ofAttribute ["where"] "height", value := some (.text "low"), implied := false },
      { location := .ofAttribute ["how"] "task", value := some (.text "scan"), implied := false }] }

/-- An optional rule that asks for a number. -/
def heightRule : Rule :=
  { location := .ofAttribute ["where"] "height", mandatory := false, constraint := "",
    version := none, kind := some .number, description := "" }

/-- The table of that rule. -/
def heightTable : RuleTable := { version := none, product := none, rules := [heightRule] }

/-- The strict report of that layout: the rule fails, and one node is an extra. -/
def oddReport : Report :=
  { violations := [
      { rule := heightRule,
        finding := .kindMismatch (.ofAttribute ["where"] "height") .number (some .text) },
      { rule := .undescribed (.ofAttribute ["how"] "task") none, finding := .unexpected }]
    rulesChecked := 1, nodesObserved := 2 }

theorem compare_under_of_oddLayout :
    CompareOptions.standard.AtMost .strict ∧
      (compare oddLayout heightTable .standard).outcome = .ok (oddReport.under .standard) ∧
      (compare oddLayout heightTable .strict).outcome = .ok oddReport ∧
      (oddReport.under .standard).violations.Sublist oddReport.violations := by
  have hatMost : CompareOptions.standard.AtMost .strict := by
    simp [CompareOptions.AtMost, CompareOptions.standard, CompareOptions.strict]
  have hstrict : (compare oddLayout heightTable .strict).outcome = .ok oddReport := by
    rw [outcome_compare, outcome_checkRules, map_node_placedFrom, ← Except.toOption_eq_some_iff]
    decide +kernel
  obtain ⟨hunder, -, -, hmore⟩ := compare_under oddLayout heightTable
  have hstandard := hunder .standard
  rw [hstrict] at hstandard
  exact ⟨hatMost, hstandard, hstrict, (hmore _ _ hatMost _ _ hstandard hstrict).1⟩

end Comparison

end RadarConform
