import RadarConform.Proofs.Comparison.Composition

/-!
# Nodes that no rule describes

Rules look at the nodes that they describe and at nothing else, and of these they do not see whether
a group is only implied.  So a node that no rule describes can be put anywhere, and marks can be set
and taken off, without a change to what any rule finds.

* `Rule.view` — what a rule looks at, with `checkRule_view`: **a rule finds in a layout what it
  finds in its view**.
* `RuleTable.SameViews` — layouts that look the same to every rule of a table.
* `compare_of_sameViews` — such layouts share their errors and their faults, so their reports differ
  in the extras only.
* `compare_undescribed` — **a node that no rule describes is inert**: it adds itself to the extras,
  in its place, or nothing; and marks decide about extras only.

The running comparison numbers the nodes, and a node that is put in moves the numbers of all nodes
after it.  That no number is left in a report is what the naive walk shows; the proofs here are
about that walk, in which two layouts are two lists.
-/

namespace RadarConform

open Comparison

/-- A node as the rules see it, whether it is only implied or not. -/
def Node.unmarked (n : Node) : Node := { n with implied := false }

/-- What a rule looks at: the nodes that it describes. -/
def Rule.view (rule : Rule) (nodes : List Node) : List Node :=
  (nodes.filter (Naive.describes rule)).map Node.unmarked

/-- A location that no rule of a table, once it is compiled, accepts. -/
def RuleTable.Overlooks (t : RuleTable) (l : Location) : Prop :=
  ∀ rule ∈ t.rules, ∀ m, LocationMatcher.compile rule.location = .ok m → m.accepts l = false

/-- Nodes that look the same to every rule of a table. -/
def RuleTable.SameViews (t : RuleTable) (nodes nodes' : List Node) : Prop :=
  ∀ rule ∈ t.rules, rule.view nodes = rule.view nodes'

namespace Comparison

/-! ## What a rule looks at -/

@[simp] lemma describes_unmarked (rule : Rule) (n : Node) :
    Naive.describes rule n.unmarked = Naive.describes rule n := rfl

@[simp] lemma check_unmarked (rule : Rule) (n : Node) :
    Naive.check rule n.unmarked = Naive.check rule n := rfl

/-- What is in view is described. -/
lemma filter_view (rule : Rule) (nodes : List Node) :
    (rule.view nodes).filter (Naive.describes rule) = rule.view nodes := by
  rw [List.filter_eq_self]
  intro n hn
  obtain ⟨k, hk, rfl⟩ := List.mem_map.mp hn
  simpa using (List.mem_filter.mp hk).2

/-- **A rule finds in a layout what it finds in its view**: the same violations, or the same error.
-/
lemma checkRule_view (options : CompareOptions) (rule : Rule) (nodes : List Node) :
    Naive.checkRule options (rule.view nodes) rule = Naive.checkRule options nodes rule := by
  simp only [Naive.checkRule, Naive.matcher]
  cases hm : LocationMatcher.compile rule.location with
  | error e => rfl
  | ok m =>
      have hhits : ∀ ns, Naive.hits m ns = ns.filter (Naive.describes rule) := by
        intro ns
        refine List.filter_congr fun n _ => ?_
        simp [Naive.describes, hm]
      have hchecks : (rule.view nodes).mapM (Naive.check rule)
          = (nodes.filter (Naive.describes rule)).mapM (Naive.check rule) := by
        rw [Rule.view, List.mapM_map]
        exact Except.mapM_congr fun n _ => check_unmarked rule n
      have hempty : (rule.view nodes).isEmpty
          = (nodes.filter (Naive.describes rule)).isEmpty := by simp [Rule.view]
      simp only [Except.mapError_ok, Except.ok_bind, hhits, filter_view, hchecks, hempty]

/-! ## Layouts that look the same -/

variable {t : RuleTable} {options : CompareOptions} {nodes nodes' : List Node}

/-- Rules find the same in what looks the same. -/
lemma mapM_checkRule_of_sameViews (options : CompareOptions) (h : t.SameViews nodes nodes') :
    t.rules.mapM (Naive.checkRule options nodes)
      = t.rules.mapM (Naive.checkRule options nodes') := by
  refine Except.mapM_congr ?_
  intro rule hrule
  rw [← checkRule_view, h rule hrule, checkRule_view]

/-- **Layouts that look the same to a table** share their errors and their faults, and each has its
own extras. -/
lemma compare_of_sameViews (options : CompareOptions) (h : t.SameViews nodes nodes') :
    (∀ e, (compare { nodes } t options).outcome = .error e ↔
        (compare { nodes := nodes' } t options).outcome = .error e) ∧
      ∀ r, (compare { nodes } t options).outcome = .ok r →
        r.violations = r.faults ++ extrasFor options t nodes ∧
        r.nodesObserved = nodes.length ∧
        ∃ r', (compare { nodes := nodes' } t options).outcome = .ok r' ∧
          r'.violations = r.faults ++ extrasFor options t nodes' ∧
          r'.rulesChecked = r.rulesChecked ∧ r'.nodesObserved = nodes'.length := by
  have hfound := mapM_checkRule_of_sameViews options h
  constructor
  · intro e
    rw [outcome_compare_eq_error_iff, outcome_compare_eq_error_iff, hfound]
  · intro r hr
    obtain ⟨found, hholds⟩ := exists_holds hr
    have hfound' : List.Forall₂ (fun rule violations =>
        Naive.checkRule options ({ nodes := nodes' } : Layout).nodes rule = .ok violations)
          t.rules found := by
      rw [← Except.mapM_eq_ok_iff, ← hfound, Except.mapM_eq_ok_iff]
      exact hholds.found_eq
    obtain ⟨r', hr', hholds'⟩ := exists_report hfound'
    refine ⟨?_, hholds.nodes_eq, r', hr', ?_, ?_, hholds'.nodes_eq⟩
    · rw [← hholds.extras_eq]
      exact hholds.violations_eq
    · rw [hholds'.violations_eq, hholds'.extras_eq, hholds'.faults_eq, hholds.faults_eq]
    · rw [hholds'.rules_eq, hholds.rules_eq]

/-! ## A node more -/

lemma overlooks_iff {n : Node} :
    t.Overlooks n.location ↔ ∀ rule ∈ t.rules, Naive.describes rule n = false := by
  refine forall_congr' fun rule => imp_congr_right fun _ => ?_
  simp only [Naive.describes]
  cases LocationMatcher.compile rule.location with
  | error e => simp
  | ok m => simp

/-- A node that no rule describes is in no view. -/
lemma sameViews_insert (before after : List Node) {n : Node} (h : t.Overlooks n.location) :
    t.SameViews (before ++ after) (before ++ n :: after) := by
  intro rule hrule
  have hn : Naive.describes rule n = false := overlooks_iff.mp h rule hrule
  simp [Rule.view, List.filter_append, hn]

/-- The extras of the nodes before a node that no rule describes, the node itself unless it is only
implied, and the extras of the nodes after it. -/
lemma extrasFor_insert {before after : List Node} {n : Node} (h : t.Overlooks n.location) :
    extrasFor options t (before ++ n :: after)
      = extrasFor options t before
          ++ (if options.checkExtras && !n.implied then [n.asExtra t.version] else [])
          ++ extrasFor options t after := by
  have hn : t.rules.any (Naive.describes · n) = false := by
    rw [List.any_eq_false]
    intro rule hrule
    rw [overlooks_iff.mp h rule hrule]
    exact Bool.false_ne_true
  cases hextras : options.checkExtras with
  | false => simp [extrasFor, hextras]
  | true =>
      simp only [extrasFor, hextras, if_true, Bool.true_and, Naive.extras, List.filter_append,
        List.map_append, List.filter_cons, hn, Bool.not_false]
      cases n.implied with
      | false => simp [Node.asExtra]
      | true => simp

lemma extrasFor_append (before after : List Node) :
    extrasFor options t (before ++ after)
      = extrasFor options t before ++ extrasFor options t after := by
  cases hextras : options.checkExtras with
  | false => simp [extrasFor, hextras]
  | true => simp [extrasFor, hextras, Naive.extras, List.filter_append]

/-! ## Other marks -/

/-- Marks are not in view. -/
lemma sameViews_of_unmarked (h : nodes.map Node.unmarked = nodes'.map Node.unmarked) :
    t.SameViews nodes nodes' := by
  have hview : ∀ (rule : Rule) (ns : List Node),
      rule.view ns = (ns.map Node.unmarked).filter (Naive.describes rule) := by
    intro rule ns
    rw [Rule.view, List.filter_map]
    rfl
  intro rule _
  rw [hview, hview, h]

/-- **A node that no rule describes is inert.**  Wherever it is put into a layout, the comparison
ends with the error that it ended with before; and if it gave a report, the faults stay what they
were, the extras stay in their order, and there is one node more.  The node itself is one more
extra, after those of the nodes before it and before those of the nodes after it, exactly when
extras are asked for and it is not only implied.

Layouts that differ in marks only share their errors and their faults, and the extras of each are
its nodes without a mark that no rule describes. -/
theorem compare_undescribed (t : RuleTable) (options : CompareOptions) :
    (∀ before after n, t.Overlooks n.location →
      (∀ e, (compare { nodes := before ++ after } t options).outcome = .error e ↔
        (compare { nodes := before ++ n :: after } t options).outcome = .error e) ∧
      ∀ r, (compare { nodes := before ++ after } t options).outcome = .ok r →
        r.violations
          = r.faults ++ (extrasFor options t before ++ extrasFor options t after) ∧
        ∃ r', (compare { nodes := before ++ n :: after } t options).outcome = .ok r' ∧
          r'.violations = r.faults ++ (extrasFor options t before
            ++ (if options.checkExtras && !n.implied then [n.asExtra t.version] else [])
            ++ extrasFor options t after) ∧
          r'.rulesChecked = r.rulesChecked ∧ r'.nodesObserved = r.nodesObserved + 1) ∧
    ∀ nodes nodes', nodes.map Node.unmarked = nodes'.map Node.unmarked →
      (∀ e, (compare { nodes } t options).outcome = .error e ↔
        (compare { nodes := nodes' } t options).outcome = .error e) ∧
      ∀ r, (compare { nodes } t options).outcome = .ok r →
        r.violations = r.faults ++ extrasFor options t nodes ∧
        ∃ r', (compare { nodes := nodes' } t options).outcome = .ok r' ∧
          r'.violations = r.faults ++ extrasFor options t nodes' ∧
          r'.rulesChecked = r.rulesChecked ∧ r'.nodesObserved = r.nodesObserved := by
  constructor
  · intro before after n hn
    obtain ⟨herror, hok⟩ := compare_of_sameViews options (sameViews_insert before after hn)
    refine ⟨herror, ?_⟩
    intro r hr
    obtain ⟨hviolations, hnodes, r', hr', hviolations', hrules, hnodes'⟩ := hok r hr
    refine ⟨?_, r', hr', ?_, hrules, ?_⟩
    · rw [hviolations, extrasFor_append]
    · rw [hviolations', extrasFor_insert hn]
    · rw [hnodes', hnodes]
      simp only [List.length_append, List.length_cons]
      omega
  · intro nodes nodes' h
    obtain ⟨herror, hok⟩ := compare_of_sameViews options (sameViews_of_unmarked (t := t) h)
    refine ⟨herror, ?_⟩
    intro r hr
    obtain ⟨hviolations, hnodes, r', hr', hviolations', hrules, hnodes'⟩ := hok r hr
    have hlength : nodes.length = nodes'.length := by simpa using congrArg List.length h
    exact ⟨hviolations, r', hr', hviolations', hrules, by rw [hnodes', hnodes, hlength]⟩

/-! ## An attribute that is almost described -/

/-- A group in a layout, with or without the mark. -/
def markedGroup (implied : Bool) : Node :=
  { location := .container ["how"], value := none, implied }

/-- A layout with a text where the table asks for a number, after a group. -/
def markedNodes (implied : Bool) : List Node :=
  [markedGroup implied, textNode "where" "height" "low"]

/-- The report on this layout and one attribute more, with two extras. -/
def taskExtraReport : Report :=
  { violations := [heightFault, (markedGroup false).asExtra none,
      (textNode "how" "task" "scan").asExtra none]
    rulesChecked := 1, nodesObserved := 3 }

/-- An attribute next to a described one is an extra between the two others, and the group is none
once it is only implied. -/
theorem compare_undescribed_almostHeight :
    heightTable.Overlooks (textNode "where" "heights" "low").location ∧
      (∃ r, (compare { nodes := markedNodes false
            ++ textNode "where" "heights" "low" :: [textNode "how" "task" "scan"] }
          heightTable .strict).outcome = .ok r ∧
        r.violations = [heightFault, (markedGroup false).asExtra none,
          (textNode "where" "heights" "low").asExtra none,
          (textNode "how" "task" "scan").asExtra none] ∧
        r.nodesObserved = 4) ∧
      ∃ r, (compare { nodes := markedNodes true ++ [textNode "how" "task" "scan"] }
          heightTable .strict).outcome = .ok r ∧
        r.violations = [heightFault, (textNode "how" "task" "scan").asExtra none] := by
  have hoverlooks : heightTable.Overlooks (textNode "where" "heights" "low").location :=
    overlooks_iff.mpr (by decide +kernel)
  have hreport : (compare { nodes := markedNodes false ++ [textNode "how" "task" "scan"] }
      heightTable .strict).outcome = .ok taskExtraReport := by
    rw [outcome_compare_found, ← Except.toOption_eq_some_iff]
    decide +kernel
  obtain ⟨hinsert, hmarks⟩ := compare_undescribed heightTable .strict
  obtain ⟨-, r, hr, hviolations, -, hnodes⟩ := (hinsert _ _ _ hoverlooks).2 _ hreport
  have hunmarked : (markedNodes false ++ [textNode "how" "task" "scan"]).map Node.unmarked
      = (markedNodes true ++ [textNode "how" "task" "scan"]).map Node.unmarked := rfl
  obtain ⟨-, s, hs, hviolations', -, -⟩ := (hmarks _ _ hunmarked).2 _ hreport
  refine ⟨hoverlooks, ⟨r, hr, ?_, hnodes⟩, s, hs, ?_⟩
  · rw [hviolations]
    decide +kernel
  · rw [hviolations']
    decide +kernel

end Comparison

end RadarConform
