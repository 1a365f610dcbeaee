import Mathlib.Data.List.Perm.Basic
import RadarConform.Proofs.Comparison.Policy

/-!
# Tables one after the other

Rules do not see each other: what a rule finds depends on the layout alone.  Only the extras depend
on all rules together, since a node is an extra when **no** rule describes it.

* `RuleTable.followedBy` — a table with the rules of another one after its own.
* `Report.faults`, `Report.extras` — the two kinds of violations in a report: those of the rules,
  and those for nodes that no rule describes.
* `Report.marksExtra` — a node that a report counts among its extras.
* `compare_followedBy` — **comparing with two tables one after the other is comparing with each**:
  the faults stand one after the other, and the extras are those that both tables agree on.

Extras do not add up and are not one list after the other: a node that one table describes is none
for the two together, whatever the other table says.
-/

namespace RadarConform

/-- A table with the rules of another one after its own. -/
def RuleTable.followedBy (t u : RuleTable) : RuleTable := { t with rules := t.rules ++ u.rules }

/-- Whether a violation is one for a node that no rule describes. -/
def Violation.isExtra (v : Violation) : Bool := v.finding == .unexpected

namespace Report

/-- The violations of rules, in the order of the report. -/
def faults (r : Report) : List Violation := r.violations.filter (!·.isExtra)

/-- The violations for nodes that no rule describes, in the order of the report. -/
def extras (r : Report) : List Violation := r.violations.filter (·.isExtra)

end Report

/-- The violation for a node that no rule of a table describes. -/
def Node.asExtra (version : Option Version) (n : Node) : Violation :=
  { rule := .undescribed n.location version, finding := .unexpected }

/-- Whether a report counts a node among its extras.  A node that is only implied is none, even if
another node at the same location is. -/
def Report.marksExtra (r : Report) (version : Option Version) (n : Node) : Bool :=
  !n.implied && r.violations.contains (n.asExtra version)

namespace Comparison

/-! ## Faults and extras -/

/-- What a rule finds is never an extra. -/
lemma isExtra_of_checkRule {options : CompareOptions} {nodes : List Node} {rule : Rule}
    {violations : List Violation} (h : Naive.checkRule options nodes rule = .ok violations)
    {v : Violation} (hv : v ∈ violations) : v.isExtra = false := by
  have hne : v.finding ≠ .unexpected := by
    obtain ⟨-, ⟨hmissing, -, -⟩ | ⟨-, node, -, -, hcheck⟩⟩ := (mem_checkRule_iff h).mp hv
    · rw [hmissing]
      exact nofun
    · rcases finding_of_check hcheck with ⟨_, heq⟩ | ⟨_, heq⟩
      · rw [heq]
        exact nofun
      · rw [heq]
        exact nofun
  simpa [Violation.isExtra] using hne

lemma isExtra_of_mem_extras {table : RuleTable} {nodes : List Node} {v : Violation}
    (hv : v ∈ Naive.extras table nodes) : v.isExtra = true := by
  obtain ⟨node, -, rfl⟩ := List.mem_map.mp hv
  rfl

/-- The extras that a comparison asks for. -/
def extrasFor (options : CompareOptions) (table : RuleTable) (nodes : List Node) : List Violation :=
  if options.checkExtras then Naive.extras table nodes else []

/-- A report, taken apart into what the rules found and the extras. -/
structure Holds (layout : Layout) (table : RuleTable) (options : CompareOptions)
    (found : List (List Violation)) (r : Report) : Prop where
  /-- What each rule found, in the order of the table. -/
  found_eq : List.Forall₂ (fun rule violations =>
    Naive.checkRule options layout.nodes rule = .ok violations) table.rules found
  faults_eq : r.faults = found.flatten
  extras_eq : r.extras = extrasFor options table layout.nodes
  violations_eq : r.violations = r.faults ++ r.extras
  rules_eq : r.rulesChecked = table.rules.length
  nodes_eq : r.nodesObserved = layout.nodes.length

variable {layout : Layout} {t u : RuleTable} {options : CompareOptions}

/-- Rules that all find something, be it nothing, give a report that holds what they found. -/
lemma exists_report {found : List (List Violation)}
    (h : List.Forall₂ (fun rule violations =>
      Naive.checkRule options layout.nodes rule = .ok violations) t.rules found) :
    ∃ r, (compare layout t options).outcome = .ok r ∧ Holds layout t options found r := by
  have hfaults : ∀ v ∈ found.flatten, v.isExtra = false := by
    intro v hv
    obtain ⟨violations, hmem, hv⟩ := List.mem_flatten.mp hv
    obtain ⟨rule, -, hcheck⟩ := exists_of_forall₂ h.flip hmem
    exact isExtra_of_checkRule hcheck hv
  have hextras : ∀ v ∈ extrasFor options t layout.nodes, v.isExtra = true := by
    intro v hv
    rw [extrasFor] at hv
    split at hv
    · exact isExtra_of_mem_extras hv
    · cases hv
  have hfaults_eq : (found.flatten ++ extrasFor options t layout.nodes).filter (!·.isExtra)
      = found.flatten := by
    rw [List.filter_append, List.filter_eq_self.mpr fun v hv => by simp [hfaults v hv],
      List.filter_eq_nil_iff.mpr fun v hv => by simp [hextras v hv], List.append_nil]
  have hextras_eq : (found.flatten ++ extrasFor options t layout.nodes).filter (·.isExtra)
      = extrasFor options t layout.nodes := by
    rw [List.filter_append, List.filter_eq_nil_iff.mpr fun v hv => by simp [hfaults v hv],
      List.filter_eq_self.mpr hextras, List.nil_append]
  refine ⟨{ violations := found.flatten ++ extrasFor options t layout.nodes
            rulesChecked := t.rules.length, nodesObserved := layout.nodes.length }, ?_,
    h, hfaults_eq, hextras_eq, ?_, rfl, rfl⟩
  · rw [outcome_compare_found, Except.mapM_eq_ok_iff.mpr h]
    rfl
  · rw [Report.faults, Report.extras, hfaults_eq, hextras_eq]

/-- Every report holds what the rules found. -/
lemma exists_holds {r : Report} (h : (compare layout t options).outcome = .ok r) :
    ∃ found, Holds layout t options found r := by
  have hfound := h
  rw [outcome_compare_found] at hfound
  obtain ⟨found, hfound, -⟩ := Except.map_eq_ok_iff.mp hfound
  obtain ⟨r', hr', hholds⟩ := exists_report (Except.mapM_eq_ok_iff.mp hfound)
  rw [hr'] at h
  cases h
  exact ⟨found, hholds⟩

/-! ## One table after the other -/

/-- The walk over two tables is the walk over the first and then the one over the second. -/
lemma mapM_followedBy (nodes : List Node) :
    (t.followedBy u).rules.mapM (Naive.checkRule options nodes)
      = (t.rules.mapM (Naive.checkRule options nodes)).bind fun found =>
          (u.rules.mapM (Naive.checkRule options nodes)).map (found ++ ·) := by
  rw [RuleTable.followedBy, List.mapM_append]
  rfl

/-- Nodes at one location are described by the same rules. -/
lemma describes_of_location_eq {rule : Rule} {n k : Node} (h : n.location = k.location) :
    Naive.describes rule n = Naive.describes rule k := by
  rw [Naive.describes, h, Naive.describes]

/-- The extras of a report are the nodes that it marks, and these are known by the rules alone. -/
lemma marksExtra_iff {found : List (List Violation)} {r : Report}
    (h : Holds layout t options found r) {n : Node} (hn : n ∈ layout.nodes) :
    r.marksExtra t.version n
      = (options.checkExtras && (!t.rules.any (Naive.describes · n) && !n.implied)) := by
  have hmem : n.asExtra t.version ∈ r.violations ↔
      n.asExtra t.version ∈ extrasFor options t layout.nodes := by
    rw [← h.extras_eq, Report.extras, List.mem_filter]
    simp [Violation.isExtra, Node.asExtra]
  cases himplied : n.implied with
  | true => simp [Report.marksExtra, himplied]
  | false =>
      rw [Report.marksExtra, himplied, Bool.eq_iff_iff]
      simp only [Bool.not_false, Bool.true_and, Bool.and_true, List.contains_iff_mem, hmem,
        Bool.and_eq_true, extrasFor]
      cases options.checkExtras with
      | false => simp
      | true =>
          simp only [if_true, true_and, Naive.extras, List.mem_map, List.mem_filter,
            Bool.and_eq_true]
          constructor
          · rintro ⟨k, ⟨-, hk, -⟩, heq⟩
            have hlocation : k.location = n.location :=
              congrArg (fun v : Violation => v.rule.location) heq
            simpa only [describes_of_location_eq hlocation] using hk
          · intro hundescribed
            exact ⟨n, ⟨hn, hundescribed, by simp [himplied]⟩, rfl⟩

/-- The extras of two tables together are the nodes that both mark. -/
lemma extrasFor_followedBy (hversion : t.version = u.version) {found more : List (List Violation)}
    {a b : Report} (ha : Holds layout t options found a) (hb : Holds layout u options more b) :
    extrasFor options (t.followedBy u) layout.nodes
      = (layout.nodes.filter fun n => a.marksExtra t.version n && b.marksExtra t.version n).map
          (·.asExtra t.version) := by
  have hmarks : ∀ n ∈ layout.nodes, (a.marksExtra t.version n && b.marksExtra t.version n)
      = (options.checkExtras &&
          (!(t.followedBy u).rules.any (Naive.describes · n) && !n.implied)) := by
    intro n hn
    rw [marksExtra_iff ha hn, hversion, marksExtra_iff hb hn, RuleTable.followedBy, List.any_append]
    cases options.checkExtras <;> cases n.implied <;>
      cases t.rules.any (Naive.describes · n) <;> simp
  rw [List.filter_congr hmarks, extrasFor]
  cases options.checkExtras with
  | false => simp
  | true => simp only [if_true, Bool.true_and]; rfl

/-- Rules in another order find the same faults in another order, and leave the same extras. -/
lemma exists_holds_of_perm {t' : RuleTable} (hversion : t'.version = t.version)
    (hperm : t'.rules.Perm t.rules) {a : Report} (h : (compare layout t options).outcome = .ok a) :
    ∃ a', (compare layout t' options).outcome = .ok a' ∧ a'.faults.Perm a.faults ∧
      a'.extras = a.extras := by
  obtain ⟨found, ha⟩ := exists_holds h
  obtain ⟨found', hfound', hperm'⟩ := List.perm_comp_forall₂ hperm ha.found_eq
  obtain ⟨a', ha', hholds⟩ := exists_report hfound'
  refine ⟨a', ha', ?_, ?_⟩
  · rw [hholds.faults_eq, ha.faults_eq]
    exact hperm'.flatten
  · have hany : ∀ n, t'.rules.any (Naive.describes · n) = t.rules.any (Naive.describes · n) :=
      fun n => hperm.any_eq
    rw [hholds.extras_eq, ha.extras_eq, extrasFor, extrasFor, Naive.extras, Naive.extras, hversion]
    simp only [hany]

/-- **Comparing with two tables one after the other is comparing with each.**  The first table's
error ends it, and otherwise the second one's.  Without an error the rules of both are counted, the
faults of the first table stand before those of the second, and the extras are the nodes, in the
order of the layout, that both tables leave undescribed.  So no rule keeps another one from being
reported, in whatever order the rules stand and however often. -/
theorem compare_followedBy (layout : Layout) (t u : RuleTable) (options : CompareOptions)
    (hversion : t.version = u.version) :
    (∀ e, (compare layout t options).outcome = .error e →
        (compare layout (t.followedBy u) options).outcome = .error e) ∧
      (∀ a e, (compare layout t options).outcome = .ok a →
        (compare layout u options).outcome = .error e →
          (compare layout (t.followedBy u) options).outcome = .error e) ∧
      (∀ a b, (compare layout t options).outcome = .ok a →
        (compare layout u options).outcome = .ok b →
          ∃ r, (compare layout (t.followedBy u) options).outcome = .ok r ∧
            r.rulesChecked = a.rulesChecked + b.rulesChecked ∧
            r.nodesObserved = layout.nodes.length ∧
            r.violations = r.faults ++ r.extras ∧
            r.faults = a.faults ++ b.faults ∧
            r.extras = (layout.nodes.filter fun n =>
              a.marksExtra t.version n && b.marksExtra t.version n).map (·.asExtra t.version)) ∧
      ∀ t' : RuleTable, t'.version = t.version → t'.rules.Perm t.rules →
        ∀ a, (compare layout t options).outcome = .ok a →
          ∃ a', (compare layout t' options).outcome = .ok a' ∧ a'.faults.Perm a.faults ∧
            a'.extras = a.extras := by
  refine ⟨?_, ?_, ?_, fun t' hversion' hperm a ha => exists_holds_of_perm hversion' hperm ha⟩
  · intro e he
    rw [outcome_compare_found, Except.map_eq_error_iff] at he ⊢
    rw [mapM_followedBy, he]
    rfl
  · intro a e ha he
    rw [outcome_compare_found, Except.map_eq_error_iff] at he ⊢
    rw [outcome_compare_found] at ha
    obtain ⟨found, hfound, -⟩ := Except.map_eq_ok_iff.mp ha
    rw [mapM_followedBy, hfound, he]
    rfl
  · intro a b ha hb
    obtain ⟨found, hfound⟩ := exists_holds ha
    obtain ⟨more, hmore⟩ := exists_holds hb
    have hboth : List.Forall₂ (fun rule violations =>
        Naive.checkRule options layout.nodes rule = .ok violations) (t.followedBy u).rules
          (found ++ more) := List.rel_append hfound.found_eq hmore.found_eq
    obtain ⟨r, hr, hall⟩ := exists_report hboth
    refine ⟨r, hr, ?_, hall.nodes_eq, hall.violations_eq, ?_, ?_⟩
    · rw [hall.rules_eq, hfound.rules_eq, hmore.rules_eq, RuleTable.followedBy, List.length_append]
    · rw [hall.faults_eq, hfound.faults_eq, hmore.faults_eq, List.flatten_append]
    · rw [hall.extras_eq, extrasFor_followedBy hversion hfound hmore]

/-- An attribute that holds a text. -/
def textNode (group name text : String) : Node :=
  { location := .ofAttribute [group] name, value := some (.text text), implied := false }

/-- A layout with three attributes. -/
def surveyLayout : Layout :=
  { nodes := [textNode "where" "height" "low", textNode "how" "task" "scan",
      textNode "how" "system" "north"] }

/-- A rule that a text must be there. -/
def textRule (group name : String) : Rule :=
  { location := .ofAttribute [group] name, mandatory := true, constraint := "", version := none,
    kind := some .text, description := "" }

/-- A table that knows one of the attributes, and one that is not there. -/
def taskTable : RuleTable :=
  { version := none, product := none, rules := [textRule "how" "task", textRule "what" "source"] }

/-- What is wrong with the layout by the table that asks for a number. -/
def heightFault : Violation :=
  { rule := heightRule,
    finding := .kindMismatch (.ofAttribute ["where"] "height") .number (some .text) }

/-- What is wrong with the layout by the other table. -/
def sourceFault : Violation := { rule := textRule "what" "source", finding := .missing }

/-- The report of the first table alone, with two extras. -/
def heightReport : Report :=
  { violations := [heightFault, (textNode "how" "task" "scan").asExtra none,
      (textNode "how" "system" "north").asExtra none]
    rulesChecked := 1, nodesObserved := 3 }

/-- The report of the second table alone, with two extras. -/
def taskReport : Report :=
  { violations := [sourceFault, (textNode "where" "height" "low").asExtra none,
      (textNode "how" "system" "north").asExtra none]
    rulesChecked := 2, nodesObserved := 3 }

/-- Each table alone leaves two nodes undescribed, and both together the one that neither knows. -/
theorem compare_followedBy_of_surveyLayout :
    heightTable.version = taskTable.version ∧
      (compare surveyLayout heightTable .strict).outcome = .ok heightReport ∧
      (compare surveyLayout taskTable .strict).outcome = .ok taskReport ∧
      ∃ r, (compare surveyLayout (heightTable.followedBy taskTable) .strict).outcome = .ok r ∧
        r.violations
          = [heightFault, sourceFault, (textNode "how" "system" "north").asExtra none] := by
  have hheight : (compare surveyLayout heightTable .strict).outcome = .ok heightReport := by
    rw [outcome_compare_found, ← Except.toOption_eq_some_iff]
    decide +kernel
  have htask : (compare surveyLayout taskTable .strict).outcome = .ok taskReport := by
    rw [outcome_compare_found, ← Except.toOption_eq_some_iff]
    decide +kernel
  obtain ⟨-, -, hboth, -⟩ := compare_followedBy surveyLayout heightTable taskTable .strict rfl
  obtain ⟨r, hr, -, -, hviolations, hfaults, hextras⟩ := hboth _ _ hheight htask
  refine ⟨rfl, hheight, htask, r, hr, ?_⟩
  rw [hviolations, hfaults, hextras]
  decide +kernel

end Comparison

end RadarConform
