import RadarConform.Proofs.Comparison.Run
import RadarConform.Proofs.Constraint.Progress

/-!
# Tables whose constraints fit their kinds

A rule table may be checked before it meets a layout: every location compiles, and every constraint
can be read for the kind that its rule declares.  Values of another kind never reach the constraint,
so such a table fails on a layout for one reason only, a sequence of which no aggregate can be
computed.

* `RuleTable.KindChecked` — the check.
* `Rule.StumblesAt` — a rule for sequences that is evaluated at such a sequence.
* `compare_of_kindChecked` — **a comparison with a checked table fails exactly when a rule stumbles**,
  and its error names the rule and what is wrong with the sequence.

A rule without a constraint is never evaluated, whatever its kind, so it does not stumble
(`compare_anglesTable_empty`).
-/

namespace RadarConform

open Comparison Grammar

/-- A table in which every location compiles and every constraint, unless it is blank, can be read
for the kind of its rule. -/
structure RuleTable.KindChecked (table : RuleTable) : Prop where
  compiles : ∀ rule ∈ table.rules, ∃ m, LocationMatcher.compile rule.location = .ok m
  readable : ∀ rule ∈ table.rules, rule.isPresenceOnly = false →
    ∃ kind, rule.kind = some kind ∧
      ∃ c, Constraint.parse (Text.trimmed rule.constraint) kind = .ok c

/-- A node that holds an empty sequence or one with an element that is not finite. -/
def Node.HoldsDefectiveSequence (node : Node) : Prop :=
  ∃ xs, node.value = some (.sequence xs) ∧ (xs = [] ∨ ∃ x ∈ xs, x.isFinite = false)

/-- A rule for sequences that has a constraint, at a node whose sequence has no aggregates. -/
def Rule.StumblesAt (rule : Rule) (node : Node) : Prop :=
  rule.isPresenceOnly = false ∧ rule.kind = some .numberSequence ∧ node.HoldsDefectiveSequence

/-- An error that says what is wrong with the sequence of a node. -/
def ConstraintError.Blames (cause : ConstraintError) (node : Node) : Prop :=
  ∃ a xs, node.value = some (.sequence xs) ∧
    (cause = .emptySequence a ∧ xs = [] ∨
      ∃ i x, cause = .notFinite a i x ∧ xs[i]? = some x ∧ x.isFinite = false)

namespace Comparison

/-! ## One node -/

/-- A source identifier is a text, and what is wrong with its tokens is no error. -/
lemma settles_sourceVerdict {source constraint : String} {c : Constraint}
    (h : Constraint.parse constraint .text = .ok c) :
    Settles (.text source) (Naive.sourceVerdict source constraint) := by
  have hnormal : Settles (.text source) (c.outcome (.text (SourceIdentifier.normalize source))) :=
    settles_outcome (v := .text (SourceIdentifier.normalize source)) h
  rw [Naive.sourceVerdict, h]
  refine hnormal.bind fun o => ?_
  cases o.matched with
  | false => exact .inl ⟨_, rfl, rfl⟩
  | true =>
      cases SourceIdentifier.check (SourceIdentifier.normalize source) with
      | ok _ => exact .inl ⟨_, rfl, rfl⟩
      | error e => exact .inl ⟨_, rfl, rfl⟩

/-- A constraint read for the kind of a value settles on the value. -/
lemma settles_verdict {rule : Rule} {node : Node} {value : AttributeValue} {c : Constraint}
    (h : Constraint.parse (Text.trimmed rule.constraint) value.kind = .ok c) :
    Settles value (Naive.verdict rule node value) := by
  cases value with
  | text s =>
      simp only [Naive.verdict]
      split
      · exact settles_sourceVerdict h
      · exact settles_parse (v := .text s) h
  | number x =>
      simp only [Naive.verdict]
      exact settles_parse (v := .number x) h
  | sequence xs =>
      simp only [Naive.verdict]
      exact settles_parse (v := .sequence xs) h

lemma holdsDefectiveSequence_iff {node : Node} {value : AttributeValue}
    (h : node.value = some value) : node.HoldsDefectiveSequence ↔ value.failure? ≠ none := by
  cases value with
  | text s | number x => simp [Node.HoldsDefectiveSequence, AttributeValue.failure?, h]
  | sequence xs =>
      rw [AttributeValue.failure?, ne_eq, Aggregate.failure?_eq_none_iff]
      simp [Node.HoldsDefectiveSequence, h, imp_iff_not_or]

/-- The reason for which a sequence has no aggregates is one of the two. -/
lemma blames_ofFailure {node : Node} {value : AttributeValue} (h : node.value = some value)
    {f : Aggregate.Failure} (hf : value.failure? = some f) (a : Aggregate) :
    (ConstraintError.ofFailure a f).Blames node := by
  cases value with
  | text s | number x => cases hf
  | sequence xs =>
      refine ⟨a, xs, h, ?_⟩
      cases f with
      | empty => exact .inl ⟨rfl, Aggregate.failure?_eq_empty_iff.mp hf⟩
      | notFinite i x =>
          obtain ⟨before, after, rfl, rfl, hx, -⟩ :=
            Aggregate.firstNotFinite_eq_some_iff.mp (Aggregate.failure?_eq_notFinite_iff.mp hf)
          exact .inr ⟨_, x, rfl, by simp, hx⟩

/-- A value that gets past the check of its kind is of the kind that the rule declares. -/
lemma kindFinding?_eq_none_iff {rule : Rule} {node : Node} {kind : ValueKind}
    {value : AttributeValue} (hrule : rule.kind = some kind) (hnode : node.value = some value) :
    kindFinding? rule node = none ↔ value.kind = kind := by
  simp [kindFinding?, hrule, hnode]

/-- **A rule at one node.**  If the constraint can be read, the check fails exactly where the rule
stumbles. -/
lemma check_of_readable {rule : Rule} (node : Node)
    (h : rule.isPresenceOnly = false → ∃ kind, rule.kind = some kind ∧
      ∃ c, Constraint.parse (Text.trimmed rule.constraint) kind = .ok c) :
    (∃ found, ¬ rule.StumblesAt node ∧ Naive.check rule node = .ok found) ∨
      ∃ cause, rule.StumblesAt node ∧ cause.Blames node ∧
        Naive.check rule node = .error cause := by
  rw [Naive.check]
  split
  · next finding hkind =>
      refine .inl ⟨_, ?_, rfl⟩
      rintro ⟨-, hrule, xs, hvalue, -⟩
      rw [(kindFinding?_eq_none_iff hrule hvalue).mpr rfl] at hkind
      cases hkind
  · next hkind hvalue =>
      refine .inl ⟨_, ?_, rfl⟩
      rintro ⟨-, -, xs, hsome, -⟩
      rw [hvalue] at hsome
      cases hsome
  · next value hkind hvalue =>
      cases hpresence : rule.isPresenceOnly with
      | true =>
          refine .inl ⟨_, ?_, rfl⟩
          rintro ⟨hconstraint, -, -⟩
          rw [hconstraint] at hpresence
          cases hpresence
      | false =>
          -- The kind check has let the value through, so the constraint was read for its kind.
          obtain ⟨kind, hrule, c, hc⟩ := h hpresence
          obtain rfl := (kindFinding?_eq_none_iff hrule hvalue).mp hkind
          simp only [Bool.false_eq_true, if_false]
          rcases settles_verdict hc with ⟨o, hnone, hverdict⟩ | ⟨a, f, hsome, hverdict⟩
          · refine .inl ⟨_, ?_, by rw [hverdict]; rfl⟩
            rintro ⟨-, -, hdefective⟩
            exact (holdsDefectiveSequence_iff hvalue).mp hdefective hnone
          · refine .inr ⟨_, ⟨hpresence, ?_, ?_⟩, blames_ofFailure hvalue hsome a,
              by rw [hverdict]; rfl⟩
            · cases value with
              | text s | number x => cases hsome
              | sequence xs => exact hrule
            · exact (holdsDefectiveSequence_iff hvalue).mpr (by simp [hsome])

/-! ## One rule and all rules -/

/-- A rule that can be read fails exactly when it stumbles at one of its hits. -/
lemma checkRule_of_readable (options : CompareOptions) (nodes : List Node) {rule : Rule}
    (hcompiles : ∃ m, LocationMatcher.compile rule.location = .ok m)
    (hreadable : rule.isPresenceOnly = false → ∃ kind, rule.kind = some kind ∧
      ∃ c, Constraint.parse (Text.trimmed rule.constraint) kind = .ok c) :
    ((∃ violations, Naive.checkRule options nodes rule = .ok violations) ∧
        ∀ node ∈ nodes, Naive.describes rule node = true → ¬ rule.StumblesAt node) ∨
      ∃ node ∈ nodes, Naive.describes rule node = true ∧ rule.StumblesAt node ∧
        ∃ cause, cause.Blames node ∧ Naive.checkRule options nodes rule
          = .error (.constraint rule.location rule.constraint cause) := by
  cases hcheck : Naive.checkRule options nodes rule with
  | ok violations =>
      refine .inl ⟨⟨violations, rfl⟩, fun node hnode hdescribes hstumbles => ?_⟩
      obtain ⟨found, hfound⟩ := exists_check_of_checkRule hcheck hnode hdescribes
      rcases check_of_readable node hreadable with ⟨-, hnot, -⟩ | ⟨cause, -, -, herror⟩
      · exact hnot hstumbles
      · rw [herror] at hfound
        cases hfound
  | error e =>
      rcases error_of_checkRule hcheck with ⟨fault, hfault, -⟩ |
        ⟨node, hnode, hdescribes, cause, herror, rfl⟩
      · obtain ⟨m, hm⟩ := hcompiles
        rw [hm] at hfault
        cases hfault
      · rcases check_of_readable node hreadable with
          ⟨found, -, hfound⟩ | ⟨cause', hstumbles, hblames, herror'⟩
        · rw [hfound] at herror
          cases herror
        · rw [herror] at herror'
          cases herror'
          exact .inr ⟨node, hnode, hdescribes, hstumbles, cause, hblames, rfl⟩

/-- **A checked table fails only on defective sequences.**  The comparison of any layout with a
checked table gives a report exactly when no rule that hits a node stumbles at it; any error is that
of a rule that stumbles, with its location and constraint, and says what is wrong with the
sequence. -/
theorem compare_of_kindChecked {table : RuleTable} (h : table.KindChecked) (layout : Layout)
    (options : CompareOptions) :
    ((∃ report, (compare layout table options).outcome = .ok report) ↔
        ∀ rule ∈ table.rules, ∀ node ∈ layout.nodes, Naive.describes rule node = true →
          ¬ rule.StumblesAt node) ∧
      ∀ e, (compare layout table options).outcome = .error e →
        ∃ rule ∈ table.rules, ∃ node ∈ layout.nodes, Naive.describes rule node = true ∧
          rule.StumblesAt node ∧
            ∃ cause, cause.Blames node ∧ e = .constraint rule.location rule.constraint cause := by
  have hrule (rule) (hrule : rule ∈ table.rules) :=
    checkRule_of_readable options layout.nodes (h.compiles rule hrule) (h.readable rule hrule)
  have herror : ∀ e, (compare layout table options).outcome = .error e →
      ∃ rule ∈ table.rules, ∃ node ∈ layout.nodes, Naive.describes rule node = true ∧
        rule.StumblesAt node ∧
          ∃ cause, cause.Blames node ∧ e = .constraint rule.location rule.constraint cause := by
    intro e he
    rw [outcome_compare_eq_error_iff] at he
    obtain ⟨rule, hmem, he⟩ := Except.exists_of_mapM_eq_error he
    rcases hrule rule hmem with ⟨⟨violations, hok⟩, -⟩ | ⟨node, hnode, hdescribes, hstumbles, h⟩
    · rw [hok] at he
      cases he
    · obtain ⟨cause, hblames, he'⟩ := h
      rw [he] at he'
      cases he'
      exact ⟨rule, hmem, node, hnode, hdescribes, hstumbles, cause, hblames, rfl⟩
  refine ⟨⟨?_, ?_⟩, herror⟩
  · rintro ⟨report, hreport⟩ rule hmem
    rcases hrule rule hmem with ⟨-, hnot⟩ | ⟨node, -, -, -, cause, -, hfails⟩
    · exact hnot
    · cases hall : table.rules.mapM (Naive.checkRule options layout.nodes) with
      | error e =>
          rw [(outcome_compare_eq_error_iff layout table options).mpr hall] at hreport
          cases hreport
      | ok found =>
          obtain ⟨violations, hok⟩ := Except.exists_of_mapM_eq_ok hall hmem
          rw [hfails] at hok
          cases hok
  · intro hnever
    cases houtcome : (compare layout table options).outcome with
    | ok report => exact ⟨report, rfl⟩
    | error e =>
        obtain ⟨rule, hmem, node, hnode, hdescribes, hstumbles, -⟩ := herror e houtcome
        exact absurd hstumbles (hnever rule hmem node hnode hdescribes)

/-! ## A list of angles -/

/-- The location of a list of elevation angles. -/
def anglesLocation : Location := { segments := ["how"], attributeName := some "elangles" }

/-- A mandatory rule for the list of angles. -/
def anglesRule (constraint : String) : Rule :=
  { location := anglesLocation, mandatory := true, constraint, version := none,
    kind := some .numberSequence, description := "" }

/-- The table of that rule. -/
def anglesTable (constraint : String) : RuleTable :=
  { version := none, product := none, rules := [anglesRule constraint] }

/-- The list of angles in a layout. -/
def anglesNode (angles : List Number) : Node :=
  { location := anglesLocation, value := some (.sequence angles), implied := false }

lemma kindChecked_anglesTable {constraint : String}
    (h : (anglesRule constraint).isPresenceOnly = false →
      ∃ c, Constraint.parse (Text.trimmed constraint) .numberSequence = .ok c) :
    (anglesTable constraint).KindChecked := by
  constructor
  · exact List.forall_mem_singleton.mpr ⟨_, rfl⟩
  · exact List.forall_mem_singleton.mpr fun hpresence => ⟨_, rfl, h hpresence⟩

lemma describes_anglesNode (constraint : String) (angles : List Number) :
    Naive.describes (anglesRule constraint) (anglesNode angles) = true := rfl

/-- A rule for the least angle, and an infinite one. -/
theorem compare_anglesTable_infinite :
    (anglesTable " min >= 0 ").KindChecked ∧
      ∃ a, (compare { nodes := [anglesNode [.zero, .infinity false]] } (anglesTable " min >= 0 ")
          .standard).outcome
        = .error (.constraint anglesLocation " min >= 0 " (.notFinite a 1 (.infinity false))) := by
  have hparse :
      (Constraint.parse (Text.trimmed " min >= 0 ") .numberSequence).toOption.isSome = true := by
    decide +kernel
  obtain ⟨c, hc⟩ := Option.isSome_iff_exists.mp hparse
  have hchecked : (anglesTable " min >= 0 ").KindChecked :=
    kindChecked_anglesTable fun _ => ⟨c, Except.toOption_eq_some_iff.mp hc⟩
  refine ⟨hchecked, ?_⟩
  obtain ⟨hok, herror⟩ :=
    compare_of_kindChecked hchecked { nodes := [anglesNode [.zero, .infinity false]] } .standard
  cases houtcome : (compare { nodes := [anglesNode [.zero, .infinity false]] }
      (anglesTable " min >= 0 ") .standard).outcome with
  | ok report =>
      have hstumbles : (anglesRule " min >= 0 ").StumblesAt (anglesNode [.zero, .infinity false]) :=
        ⟨by decide +kernel, rfl, _, rfl, .inr ⟨.infinity false, by simp, rfl⟩⟩
      exact absurd hstumbles (hok.mp ⟨report, houtcome⟩ _ List.mem_cons_self _ List.mem_cons_self
        (describes_anglesNode _ _))
  | error e =>
      obtain ⟨rule, hrule, node, hnode, -, -, cause, hblames, rfl⟩ := herror e houtcome
      rw [List.mem_singleton.mp hrule]
      rw [List.mem_singleton.mp hnode] at hblames
      obtain ⟨a, xs, hxs, ⟨-, hempty⟩ | ⟨i, x, rfl, hx, hfinite⟩⟩ := hblames
      · cases hxs
        cases hempty
      · cases hxs
        rcases i with _ | _ | i
        · cases hx
          cases hfinite
        · cases hx
          exact ⟨a, rfl⟩
        · cases hx

/-- **A rule without a constraint does not stumble.**  The table is checked and its rule for
sequences hits an empty one, but the comparison gives a report. -/
theorem compare_anglesTable_empty :
    (anglesTable "").KindChecked ∧
      (∃ rule ∈ (anglesTable "").rules, rule.kind = some .numberSequence ∧
        ∃ node ∈ [anglesNode []], Naive.describes rule node = true ∧
          node.HoldsDefectiveSequence) ∧
      (compare { nodes := [anglesNode []] } (anglesTable "") .standard).outcome
        = .ok { violations := [], rulesChecked := 1, nodesObserved := 1 } := by
  refine ⟨kindChecked_anglesTable nofun, ⟨_, List.mem_cons_self, rfl, _, List.mem_cons_self,
    describes_anglesNode _ _, [], rfl, .inl rfl⟩, ?_⟩
  rw [outcome_compare, outcome_checkRules, map_node_placedFrom, ← Except.toOption_eq_some_iff]
  decide +kernel

end Comparison

end RadarConform
