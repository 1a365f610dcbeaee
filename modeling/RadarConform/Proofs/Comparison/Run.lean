import Mathlib.Data.List.ReduceOption
import RadarConform.Proofs.Comparison.NaiveWalk

/-!
# What a comparison consists of

A comparison checks all rules and then adds the extras.  Only the rules can end it with an error, so
questions about errors are questions about the rules, and a violation of a report comes from a rule
or is an extra.

* `source_of_check`, `finding_of_check` — what a rule can find at a node.
* `mem_checkRule_iff`, `error_of_checkRule` — **what a rule finds**, and why it cannot be checked.
* `undescribed` — the violations for the nodes at places that were not marked.
* `outcome_compare` — **the two parts of a comparison**.
* `outcome_compare_eq_error_iff` — errors are those of the rules.
* `outcome_compare_found` — a report holds what the rules find, and then the extras.
* `source_of_mem_violations` — **where a violation comes from**: a rule or a node of its own.
* `missing_mem_iff` — a report says that a mandatory node is missing exactly when its rule hits
  nothing.
-/

namespace RadarConform.Comparison

/-! ## One rule -/

/-- A finding at a node is one about its kind, or it repeats the explanation of the outcome for its
value. -/
lemma source_of_check {rule : Rule} {node : Node} {finding : Finding}
    (h : Naive.check rule node = .ok (some finding)) :
    (∃ expected, finding = .kindMismatch node.location expected (node.value.map (·.kind))) ∨
      ∃ value o, Naive.verdict rule node value = .ok o ∧
        finding = .valueMismatch node.location o.explanation := by
  simp only [Naive.check] at h
  split at h
  · next hkind =>
      cases h
      simp only [kindFinding?, Option.bind_eq_bind, Option.bind_eq_some_iff] at hkind
      obtain ⟨expected, -, hkind⟩ := hkind
      split at hkind <;> split at hkind <;> cases hkind
      · exact .inl ⟨_, rfl⟩
      · exact .inl ⟨_, rfl⟩
  · cases h
  · split at h
    · cases h
    · obtain ⟨o, ho, heq⟩ := Except.map_eq_ok_iff.mp h
      split at heq
      · cases heq
      · cases heq
        exact .inr ⟨_, o, ho, rfl⟩

/-- It is about the kind that the node has, or about its value. -/
lemma finding_of_check {rule : Rule} {node : Node} {finding : Finding}
    (h : Naive.check rule node = .ok (some finding)) :
    (∃ expected, finding = .kindMismatch node.location expected (node.value.map (·.kind))) ∨
      ∃ explanation, finding = .valueMismatch node.location explanation :=
  (source_of_check h).imp_right fun ⟨_, o, _, heq⟩ => ⟨o.explanation, heq⟩

lemma mem_hits_iff {rule : Rule} {m : LocationMatcher}
    (hm : LocationMatcher.compile rule.location = .ok m) {nodes : List Node} {node : Node} :
    node ∈ Naive.hits m nodes ↔ node ∈ nodes ∧ Naive.describes rule node = true := by
  simp only [Naive.hits, Naive.describes, hm, List.mem_filter]

lemma isEmpty_hits_iff {rule : Rule} {m : LocationMatcher}
    (hm : LocationMatcher.compile rule.location = .ok m) {nodes : List Node} :
    (Naive.hits m nodes).isEmpty = true ↔
      ∀ node ∈ nodes, Naive.describes rule node = false := by
  simp [List.isEmpty_iff, List.eq_nil_iff_forall_not_mem, mem_hits_iff hm]

/-- **What a rule finds**: that no node is there, or what is wrong with a node that it describes. -/
lemma mem_checkRule_iff {options : CompareOptions} {nodes : List Node} {rule : Rule}
    {violations : List Violation} (h : Naive.checkRule options nodes rule = .ok violations)
    {v : Violation} : v ∈ violations ↔ v.rule = rule ∧
      (v.finding = .missing ∧ rule.mandatory = true ∧
          (∀ node ∈ nodes, Naive.describes rule node = false) ∨
        (rule.mandatory || options.checkOptional) = true ∧
          ∃ node ∈ nodes, Naive.describes rule node = true ∧
            Naive.check rule node = .ok (some v.finding)) := by
  obtain ⟨m, hm, h⟩ := Except.bind_eq_ok_iff.mp h
  rw [Naive.matcher, Except.mapError_eq_ok_iff] at hm
  obtain ⟨rule', finding⟩ := v
  split at h
  · next hhits =>
      cases h
      have hnone := (isEmpty_hits_iff hm).mp hhits
      constructor
      · intro hmem
        split at hmem
        · next hmandatory =>
            cases List.mem_singleton.mp hmem
            exact ⟨rfl, .inl ⟨rfl, hmandatory, hnone⟩⟩
        · cases hmem
      · rintro ⟨rfl, ⟨rfl, hmandatory, -⟩ | ⟨-, node, hnode, hdescribes, -⟩⟩
        · simpa using hmandatory
        · rw [hnone node hnode] at hdescribes
          cases hdescribes
  · next hhits =>
      obtain ⟨findings, hfindings, h⟩ := Except.bind_eq_ok_iff.mp h
      cases h
      rw [Except.mapError_eq_ok_iff, Except.mapM_eq_ok_iff] at hfindings
      constructor
      · intro hmem
        split at hmem
        · next henforced =>
            obtain ⟨finding, hfinding, heq⟩ := List.mem_map.mp hmem
            cases heq
            rw [List.reduceOption_mem_iff] at hfinding
            obtain ⟨node, hhit, hcheck⟩ := exists_of_forall₂ hfindings.flip hfinding
            obtain ⟨hnode, hdescribes⟩ := (mem_hits_iff hm).mp hhit
            exact ⟨rfl, .inr ⟨henforced, node, hnode, hdescribes, hcheck⟩⟩
        · cases hmem
      · rintro ⟨rfl, ⟨-, -, hnone⟩ | ⟨henforced, node, hnode, hdescribes, hcheck⟩⟩
        · exact absurd ((isEmpty_hits_iff hm).mpr hnone) hhits
        · obtain ⟨found, hfound, hcheck'⟩ :=
            exists_of_forall₂ hfindings ((mem_hits_iff hm).mpr ⟨hnode, hdescribes⟩)
          rw [hcheck] at hcheck'
          cases hcheck'
          rw [if_pos henforced]
          exact List.mem_map_of_mem (List.reduceOption_mem_iff.mpr hfound)

/-- A rule that is checked is checked at every node that it describes. -/
lemma exists_check_of_checkRule {options : CompareOptions} {nodes : List Node} {rule : Rule}
    {violations : List Violation} (h : Naive.checkRule options nodes rule = .ok violations)
    {node : Node} (hnode : node ∈ nodes) (hdescribes : Naive.describes rule node = true) :
    ∃ found, Naive.check rule node = .ok found := by
  obtain ⟨m, hm, h⟩ := Except.bind_eq_ok_iff.mp h
  rw [Naive.matcher, Except.mapError_eq_ok_iff] at hm
  split at h
  · next hhits =>
      rw [(isEmpty_hits_iff hm).mp hhits node hnode] at hdescribes
      cases hdescribes
  · obtain ⟨findings, hfindings, -⟩ := Except.bind_eq_ok_iff.mp h
    rw [Except.mapError_eq_ok_iff] at hfindings
    exact Except.exists_of_mapM_eq_ok hfindings ((mem_hits_iff hm).mpr ⟨hnode, hdescribes⟩)

/-- **Why a rule cannot be checked**: its location is no pattern, or its constraint cannot be used
on a node that it describes. -/
lemma error_of_checkRule {options : CompareOptions} {nodes : List Node} {rule : Rule}
    {e : CompareError} (h : Naive.checkRule options nodes rule = .error e) :
    (∃ fault, LocationMatcher.compile rule.location = .error fault ∧
        e = .locationPattern fault.location fault.segment) ∨
      ∃ node ∈ nodes, Naive.describes rule node = true ∧ ∃ cause,
        Naive.check rule node = .error cause ∧
          e = .constraint rule.location rule.constraint cause := by
  simp only [Naive.checkRule, Naive.matcher] at h
  cases hm : LocationMatcher.compile rule.location with
  | error fault =>
      rw [hm] at h
      cases h
      exact .inl ⟨fault, rfl, rfl⟩
  | ok m =>
      simp only [hm, Except.mapError_ok, Except.ok_bind] at h
      split at h
      · cases h
      · cases hchecks : (Naive.hits m nodes).mapM (Naive.check rule) with
        | ok findings =>
            rw [hchecks] at h
            cases h
        | error cause =>
            rw [hchecks] at h
            cases h
            obtain ⟨node, hhit, hcheck⟩ := Except.exists_of_mapM_eq_error hchecks
            obtain ⟨hnode, hdescribes⟩ := (mem_hits_iff hm).mp hhit
            exact .inr ⟨node, hnode, hdescribes, cause, hcheck, rfl⟩

/-- A rule finds a missing node only for itself, and then it hits none. -/
lemma missing_mem_checkRule_iff {options : CompareOptions} {nodes : List Node} {rule rule' : Rule}
    {violations : List Violation} (h : Naive.checkRule options nodes rule' = .ok violations) :
    { rule, finding := .missing } ∈ violations ↔
      rule' = rule ∧ rule.mandatory = true ∧
        ∀ node ∈ nodes, Naive.describes rule node = false := by
  rw [mem_checkRule_iff h]
  constructor
  · rintro ⟨rfl, ⟨-, hmandatory, hnone⟩ | ⟨-, node, -, -, hcheck⟩⟩
    · exact ⟨rfl, hmandatory, hnone⟩
    · rcases finding_of_check hcheck with ⟨_, hne⟩ | ⟨_, hne⟩ <;> cases hne
  · rintro ⟨rfl, hmandatory, hnone⟩
    exact ⟨rfl, .inl ⟨rfl, hmandatory, hnone⟩⟩

/-! ## The whole comparison -/

/-- The violations for the nodes that stand at none of the given places and are not merely
implied. -/
def undescribed (version : Option Version) (nodes : List Placed) (places : List Nat) :
    List Violation :=
  (nodes.filter fun p =>
    !(marked nodes.length places).getD p.place false && !p.node.implied).map
      fun p => { rule := .undescribed p.node.location version, finding := .unexpected }

variable (layout : Layout) (table : RuleTable) (options : CompareOptions)

/-- A comparison is the check of all rules, with the extras after their violations. -/
lemma outcome_compare :
    (compare layout table options).outcome
      = (checkRules options (indexed (placedFrom 0 layout.nodes)) (placedFrom 0 layout.nodes)
          table.rules).outcome.map fun found =>
            { violations := found.1 ++
                if options.checkExtras then
                  undescribed table.version (placedFrom 0 layout.nodes) found.2
                else []
              rulesChecked := table.rules.length
              nodesObserved := layout.nodes.length } := by
  simp only [compare, Logged.outcome_bind, length_placedFrom]
  cases (checkRules options (indexed (placedFrom 0 layout.nodes)) (placedFrom 0 layout.nodes)
      table.rules).outcome with
  | error e => rfl
  | ok found =>
      cases options.checkExtras with
      | false => rfl
      | true =>
          simp only [Except.bind_ok, if_true, Logged.outcome_bind, outcome_checkExtras, undescribed,
            length_placedFrom]
          rfl

/-- A comparison ends with an error exactly when a rule does, the first one to do so. -/
lemma outcome_compare_eq_error_iff {e : CompareError} :
    (compare layout table options).outcome = .error e ↔
      table.rules.mapM (Naive.checkRule options layout.nodes) = .error e := by
  rw [outcome_compare, Except.map_eq_error_iff, outcome_checkRules, Except.map_eq_error_iff,
    map_node_placedFrom]

/-- The nodes at the places that no rule marked are the nodes that no rule describes. -/
lemma undescribed_eq_extras :
    undescribed table.version (placedFrom 0 layout.nodes)
        (table.rules.flatMap (placesOf · (placedFrom 0 layout.nodes)))
      = Naive.extras table layout.nodes := by
  have h := outcome_checkExtras_marked false table layout.nodes
  rw [outcome_checkExtras] at h
  rw [undescribed, length_placedFrom]
  exact Except.ok.inj h

/-- **What a report holds.**  First what the rules find, one after the other, then the nodes that no
rule describes, if they are asked for. -/
lemma outcome_compare_found :
    (compare layout table options).outcome
      = (table.rules.mapM (Naive.checkRule options layout.nodes)).map fun found =>
          { violations := found.flatten ++
              if options.checkExtras then Naive.extras table layout.nodes else []
            rulesChecked := table.rules.length
            nodesObserved := layout.nodes.length } := by
  rw [outcome_compare, outcome_checkRules, map_node_placedFrom]
  cases table.rules.mapM (Naive.checkRule options layout.nodes) with
  | error e => rfl
  | ok found => simp only [Except.map_ok_eq, undescribed_eq_extras layout table]

section Violations

variable {layout table options} {report : Report}

/-- **Where a violation comes from.**  A rule of the table finds it, or it is that of a node which is
listed and which no rule describes. -/
lemma source_of_mem_violations (h : (compare layout table options).outcome = .ok report)
    {v : Violation} (hv : v ∈ report.violations) :
    (∃ rule ∈ table.rules, ∃ violations,
        Naive.checkRule options layout.nodes rule = .ok violations ∧ v ∈ violations) ∨
      ∃ node ∈ layout.nodes, node.implied = false ∧
        (∀ rule ∈ table.rules, Naive.describes rule node = false) ∧
        v = { rule := .undescribed node.location table.version, finding := .unexpected } := by
  rw [outcome_compare_found] at h
  obtain ⟨found, hfound, rfl⟩ := Except.map_eq_ok_iff.mp h
  rcases List.mem_append.mp hv with hfault | hextra
  · obtain ⟨violations, hmem, hv⟩ := List.mem_flatten.mp hfault
    obtain ⟨rule, hrule, hcheck⟩ := exists_of_forall₂ (Except.mapM_eq_ok_iff.mp hfound).flip hmem
    exact .inl ⟨rule, hrule, violations, hcheck, hv⟩
  · split at hextra
    · obtain ⟨node, hnode, rfl⟩ := List.mem_map.mp hextra
      obtain ⟨hmem, hundescribed⟩ := List.mem_filter.mp hnode
      simp only [Bool.and_eq_true, Bool.not_eq_true', List.any_eq_false, Bool.not_eq_true]
        at hundescribed
      exact .inr ⟨node, hmem, hundescribed.2, hundescribed.1, rfl⟩
    · cases hextra

/-- **What is reported missing.**  A report says that the node of a mandatory rule is missing
exactly when the rule hits no node. -/
lemma missing_mem_iff {rule : Rule} (hrule : rule ∈ table.rules)
    (hmandatory : rule.mandatory = true) (h : (compare layout table options).outcome = .ok report) :
    { rule, finding := .missing } ∈ report.violations ↔
      ∀ node ∈ layout.nodes, Naive.describes rule node = false := by
  constructor
  · intro hmissing
    rcases source_of_mem_violations h hmissing with ⟨_, -, _, hcheck, hmem⟩ | ⟨_, -, -, -, heq⟩
    · exact ((missing_mem_checkRule_iff hcheck).mp hmem).2.2
    · cases heq
  · intro hnone
    rw [outcome_compare_found] at h
    obtain ⟨found, hfound, rfl⟩ := Except.map_eq_ok_iff.mp h
    obtain ⟨violations, hmem, hcheck⟩ := exists_of_forall₂ (Except.mapM_eq_ok_iff.mp hfound) hrule
    have hmissing := (missing_mem_checkRule_iff hcheck).mpr ⟨rfl, hmandatory, hnone⟩
    exact List.mem_append_left _ (List.mem_flatten.mpr ⟨violations, hmem, hmissing⟩)

end Violations

end RadarConform.Comparison
