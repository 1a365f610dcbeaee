import RadarConform.Comparison.Walk
import RadarConform.Proofs.Computation

/-!
# The comparison as a naive walk

The running comparison looks literal locations up in an index and marks the described nodes in an
array of flags.  This module states what it computes without either, and without events.

* `Naive.verdict`, `Naive.check` — the constraint of a rule on a value, and a rule at one node.
* `Naive.hits` — **every** node that the matcher accepts, in the order of the layout, whether the
  location is literal or not.
* `Naive.describes` — whether a rule hits a node at all; a node that no rule describes is an extra.
* `Naive.walk` — the rules in table order, then the extras.

**The two invariants.**  `getD_indexed` says that the index holds, under each location, the nodes at
that location in layout order, so a look-up is a filter (`hitsOf_eq_filter`).  `getD_marked` says
that the array is true exactly at the places that were marked.  `outcome_compare_eq_walk` puts them
together: the comparison and the naive walk give the same report or the same error.
-/

namespace RadarConform.Comparison

namespace Naive

/-! ## The walk without index, flags and events -/

/-- What a constraint says on a source identifier: the pattern on the normalized text, then the
tokens of that text. -/
def sourceVerdict (source constraint : String) : Except ConstraintError Outcome := do
  let c ← Constraint.parse constraint .text
  let o ← c.outcome (.text (SourceIdentifier.normalize source))
  if !o.matched then return o
  else
    match SourceIdentifier.check (SourceIdentifier.normalize source) with
    | .ok () => return o
    | .error e =>
      return .fail ("source identifier " ++ Text.quoted source ++ " is malformed: " ++ e.message)

/-- What the constraint of a rule, trimmed, says on the value of a node. -/
def verdict (rule : Rule) (node : Node) (value : AttributeValue) :
    Except ConstraintError Outcome :=
  let constraint := Text.trimmed rule.constraint
  match value with
  | .text s =>
    if isSourceIdentifier node.location then sourceVerdict s constraint
    else (Constraint.parse constraint .text).bind (·.outcome value)
  | _ => (Constraint.parse constraint value.kind).bind (·.outcome value)

/-- What is wrong with a node that a rule describes: its kind, or else its value. -/
def check (rule : Rule) (node : Node) : Except ConstraintError (Option Finding) :=
  match kindFinding? rule node, node.value with
  | some finding, _ => .ok (some finding)
  | none, none => .ok none
  | none, some value =>
    if rule.isPresenceOnly then .ok none
    else
      (verdict rule node value).map fun o =>
        if o.matched then none else some (.valueMismatch node.location o.explanation)

/-- All nodes that a matcher accepts, in the order of the layout. -/
def hits (m : LocationMatcher) (nodes : List Node) : List Node :=
  nodes.filter fun node => m.accepts node.location

/-- The matcher of a rule, or the error that ends the walk at it. -/
def matcher (rule : Rule) : Except CompareError LocationMatcher :=
  (LocationMatcher.compile rule.location).mapError fun e => .locationPattern e.location e.segment

/-- The violations of one rule: one if a mandatory node is missing, and otherwise one for each hit
that fails, if the rule is enforced.  The hits are checked in any case, up to the first error. -/
def checkRule (options : CompareOptions) (nodes : List Node) (rule : Rule) :
    Except CompareError (List Violation) := do
  let m ← matcher rule
  if (hits m nodes).isEmpty then
    return if rule.mandatory then [{ rule, finding := .missing }] else []
  else
    let findings ← ((hits m nodes).mapM (check rule)).mapError
      (.constraint rule.location rule.constraint)
    return if rule.mandatory || options.checkOptional then
      findings.reduceOption.map fun finding => { rule, finding } else []

/-- Whether a rule hits a node. -/
def describes (rule : Rule) (node : Node) : Bool :=
  match LocationMatcher.compile rule.location with
  | .ok m => m.accepts node.location
  | .error _ => false

/-- The violations for the nodes that no rule describes and that are not merely implied. -/
def extras (table : RuleTable) (nodes : List Node) : List Violation :=
  (nodes.filter fun node => !table.rules.any (describes · node) && !node.implied).map
    fun node => { rule := .undescribed node.location table.version, finding := .unexpected }

/-- The whole comparison: the rules in table order up to the first error, then the extras. -/
def walk (layout : Layout) (table : RuleTable) (options : CompareOptions) :
    Except CompareError Report := do
  let found ← table.rules.mapM (checkRule options layout.nodes)
  return {
    violations :=
      found.flatten ++ if options.checkExtras then extras table layout.nodes else []
    rulesChecked := table.rules.length
    nodesObserved := layout.nodes.length }

end Naive

/-! ## Evaluation without events -/

lemma outcome_constraint_evaluate (c : Constraint) (info : Bool) (v : AttributeValue) :
    (c.evaluate info v).outcome = c.outcome v := by
  simp only [Constraint.evaluate, Logged.outcome_bind, Logged.outcome_liftM]
  cases c.outcome v <;> rfl

/-- A constraint given by its text is read for the kind of the value and then applied. -/
lemma outcome_evaluateText (info : Bool) (v : AttributeValue) (constraint : String) :
    (evaluateText info v constraint).outcome
      = (Constraint.parse constraint v.kind).bind (·.outcome v) := by
  simp only [evaluateText, Logged.outcome_bind, outcome_constraint_evaluate,
    Logged.outcome_liftM]

lemma outcome_sourceIdentifier_evaluate (info : Bool) (source constraint : String) :
    (SourceIdentifier.evaluate info source constraint).outcome
      = Naive.sourceVerdict source constraint := by
  simp only [SourceIdentifier.evaluate, Naive.sourceVerdict, Logged.outcome_bind,
    outcome_constraint_evaluate, Logged.outcome_liftM]
  refine congrArg _ (funext fun c => congrArg _ (funext fun o => ?_))
  split
  · rfl
  · cases SourceIdentifier.check (SourceIdentifier.normalize source) <;> rfl

lemma outcome_evaluateAt (info : Bool) (rule : Rule) (node : Node) (value : AttributeValue) :
    (evaluateAt info rule node value).outcome = Naive.verdict rule node value := by
  cases value with
  | text s =>
      simp only [evaluateAt, Naive.verdict]
      split
      · exact outcome_sourceIdentifier_evaluate info s _
      · exact outcome_evaluateText info (.text s) _
  | number x => exact outcome_evaluateText info (.number x) _
  | sequence xs => exact outcome_evaluateText info (.sequence xs) _

/-- A rule at one node; an error of the constraint carries the location of the rule and its
constraint as it was written. -/
lemma outcome_checkNode (info : Bool) (rule : Rule) (node : Node) :
    (checkNode info rule node).outcome
      = (Naive.check rule node).mapError (.constraint rule.location rule.constraint) := by
  simp only [checkNode, Naive.check]
  cases kindFinding? rule node with
  | some finding => rfl
  | none =>
      cases node.value with
      | none => rfl
      | some value =>
          cases rule.isPresenceOnly with
          | true => rfl
          | false =>
              simp only [Bool.false_eq_true, if_false, Logged.outcome_bind,
                Logged.outcome_mapError, outcome_evaluateAt, Logged.outcome_pure]
              cases Naive.verdict rule node value <;> rfl

/-! ## Literal locations

A literal matcher accepts its own location and no other, which is why looking the location up is
the same as trying every node. -/

lemma accepts_of_isLiteral {location : Location} {s : String} {m : SegmentMatcher}
    (h : SegmentMatcher.compile location s = .ok m) (hm : m.isLiteral = true) (t : String) :
    m.accepts t = (s == t) := by
  simp only [SegmentMatcher.compile] at h
  split at h
  · split at h
    · cases h; simp [SegmentMatcher.isLiteral] at hm
    · cases h
  · cases h; rfl

lemma acceptsAll_of_isLiteral {location : Location} {segments : List String}
    {ms : List SegmentMatcher} (h : LocationMatcher.compileAll location segments = .ok ms)
    (hm : ms.all (·.isLiteral) = true) (ts : List String) :
    LocationMatcher.acceptsAll ms ts = (segments == ts) := by
  induction segments generalizing ms ts with
  | nil => cases h; cases ts <;> rfl
  | cons s rest ih =>
      simp only [LocationMatcher.compileAll] at h
      obtain ⟨first, hfirst, h⟩ := Except.bind_eq_ok_iff.mp h
      obtain ⟨later, hlater, h⟩ := Except.bind_eq_ok_iff.mp h
      cases h
      simp only [List.all_cons, Bool.and_eq_true] at hm
      cases ts with
      | nil => rfl
      | cons t ts =>
          simp only [LocationMatcher.acceptsAll, accepts_of_isLiteral hfirst hm.1,
            ih hlater hm.2, List.cons_beq_cons]

lemma acceptsName_of_isLiteral {location : Location} {name : Option String}
    {m : Option SegmentMatcher} (h : LocationMatcher.compileName location name = .ok m)
    (hm : m.all (·.isLiteral) = true) (t : Option String) :
    LocationMatcher.acceptsName m t = (name == t) := by
  cases name with
  | none => cases h; cases t <;> rfl
  | some s =>
      obtain ⟨first, hfirst, h⟩ := Except.bind_eq_ok_iff.mp h
      cases h
      cases t with
      | none => rfl
      | some t => simpa [LocationMatcher.acceptsName] using accepts_of_isLiteral hfirst hm t

lemma location_of_compile {l : Location} {m : LocationMatcher}
    (h : LocationMatcher.compile l = .ok m) : m.location = l := by
  obtain ⟨segments, -, h⟩ := Except.bind_eq_ok_iff.mp h
  obtain ⟨attributeName, -, h⟩ := Except.bind_eq_ok_iff.mp h
  cases h
  rfl

/-- **A literal matcher accepts exactly its own location.** -/
lemma accepts_eq_of_isLiteral {l : Location} {m : LocationMatcher}
    (h : LocationMatcher.compile l = .ok m) (hm : m.isLiteral = true) (k : Location) :
    m.accepts k = (k == l) := by
  obtain ⟨segments, hsegments, h⟩ := Except.bind_eq_ok_iff.mp h
  obtain ⟨attributeName, hname, h⟩ := Except.bind_eq_ok_iff.mp h
  cases h
  simp only [LocationMatcher.isLiteral, Bool.and_eq_true] at hm
  rw [LocationMatcher.accepts, acceptsAll_of_isLiteral hsegments hm.1,
    acceptsName_of_isLiteral hname hm.2, Bool.eq_iff_iff, Bool.and_eq_true, beq_iff_eq,
    beq_iff_eq, beq_iff_eq]
  constructor
  · rintro ⟨ha, hs⟩
    cases k
    cases l
    simp_all
  · rintro rfl
    exact ⟨rfl, rfl⟩

/-! ## The index -/

/-- **The invariant of the index.**  Under each location stand the nodes at that location, in the
order of the layout, repeated locations included. -/
lemma getD_indexed (ps : List Placed) (l : Location) :
    (indexed ps).getD l [] = ps.filter fun p => p.node.location == l := by
  induction ps with
  | nil => simp [indexed]
  | cons p rest ih =>
      simp only [indexed]
      rw [Std.HashMap.getD_insert]
      by_cases hl : p.node.location = l
      · subst hl
        simp [ih]
      · have hne : (p.node.location == l) = false := by simpa using hl
        rw [if_neg (by simp [hne]), ih]
        simp [hne]

/-- Looking a literal location up and trying all nodes give the same hits. -/
lemma hitsOf_eq_filter {l : Location} {m : LocationMatcher}
    (h : LocationMatcher.compile l = .ok m) (ps : List Placed) :
    hitsOf m (indexed ps) ps = ps.filter fun p => m.accepts p.node.location := by
  rw [hitsOf]
  split
  · next hm =>
      rw [getD_indexed, location_of_compile h]
      exact List.filter_congr fun p _ => (accepts_eq_of_isLiteral h hm _).symm
  · rfl

/-! ## The flags -/

/-- **The invariant of the flags.**  The array is true exactly at the places that were marked. -/
lemma getD_marked (size : Nat) (places : List Nat) (i : Nat) :
    (marked size places).getD i false = (decide (i < size) && places.contains i) := by
  suffices h : ∀ flags : Array Bool, flags.size = size →
      (places.foldl (fun flags place => flags.setIfInBounds place true) flags).getD i false
        = (decide (i < size) && (places.contains i || flags.getD i false)) by
    rw [marked, h _ (by simp)]
    by_cases hi : i < size <;> simp [hi]
  induction places with
  | nil =>
      intro flags hsize
      by_cases hi : i < size
      · simp [hi]
      · simp [hi, hsize]
  | cons place rest ih =>
      intro flags hsize
      rw [List.foldl_cons, ih _ (by simpa using hsize)]
      by_cases hi : i < size
      · by_cases hp : place = i
        · subst hp
          simp [hi, hsize]
        · simp [hi, hp, hsize, Ne.symm hp]
      · simp [hi]

/-! ## Places

The places number the nodes of a layout, so a place names one node. -/

lemma length_placedFrom (n : Nat) (nodes : List Node) :
    (placedFrom n nodes).length = nodes.length := by
  induction nodes generalizing n with
  | nil => rfl
  | cons node rest ih => simp [placedFrom, ih]

lemma map_node_placedFrom (n : Nat) (nodes : List Node) :
    (placedFrom n nodes).map (·.node) = nodes := by
  induction nodes generalizing n with
  | nil => rfl
  | cons node rest ih => simp [placedFrom, ih]

lemma map_node_filter (test : Node → Bool) (ps : List Placed) :
    (ps.filter fun p => test p.node).map (·.node) = (ps.map (·.node)).filter test := by
  rw [List.filter_map]
  rfl

lemma place_bounds {n : Nat} {nodes : List Node} {p : Placed} (h : p ∈ placedFrom n nodes) :
    n ≤ p.place ∧ p.place < n + nodes.length := by
  induction nodes generalizing n with
  | nil => cases h
  | cons node rest ih =>
      rcases List.mem_cons.mp h with rfl | h
      · simp
      · have := ih h
        simp only [List.length_cons]
        omega

lemma eq_of_place_eq {n : Nat} {nodes : List Node} {p q : Placed}
    (hp : p ∈ placedFrom n nodes) (hq : q ∈ placedFrom n nodes) (h : p.place = q.place) :
    p = q := by
  induction nodes generalizing n with
  | nil => cases hp
  | cons node rest ih =>
      rcases List.mem_cons.mp hp with rfl | hp <;> rcases List.mem_cons.mp hq with rfl | hq
      · rfl
      · have := (place_bounds hq).1
        simp only at h
        omega
      · have := (place_bounds hp).1
        simp only at h
        omega
      · exact ih hp hq

/-! ## One rule -/

/-- The hits of a rule are checked one after the other, and what fails is a violation exactly when
the rule is enforced. -/
lemma outcome_checkHits (info : Bool) (rule : Rule) (enforced : Bool) (ps : List Placed) :
    (checkHits info rule enforced ps).outcome
      = (((ps.map (·.node)).mapM (Naive.check rule)).mapError
          (.constraint rule.location rule.constraint)).map fun findings =>
            if enforced then findings.reduceOption.map fun finding => { rule, finding }
            else [] := by
  induction ps with
  | nil => cases enforced <;> rfl
  | cons p rest ih =>
      simp only [checkHits, Logged.outcome_bind, Logged.outcome_pure, outcome_checkNode, ih,
        List.map_cons, List.mapM_cons]
      cases Naive.check rule p.node with
      | error e => rfl
      | ok finding =>
          cases (rest.map (·.node)).mapM (Naive.check rule) with
          | error e => rfl
          | ok later => cases finding <;> cases enforced <;> rfl

/-- The places of the nodes that a rule describes. -/
def placesOf (rule : Rule) (ps : List Placed) : List Nat :=
  (ps.filter fun p => Naive.describes rule p.node).map (·.place)

/-- A rule finds what the naive walk finds and marks the nodes that it describes. -/
lemma outcome_checkRule (options : CompareOptions) (ps : List Placed) (rule : Rule) :
    (checkRule options (indexed ps) ps rule).outcome
      = (Naive.checkRule options (ps.map (·.node)) rule).map (·, placesOf rule ps) := by
  simp only [checkRule, Naive.checkRule, Naive.matcher, placesOf, Naive.describes,
    Logged.outcome_bind, Logged.outcome_liftM]
  cases hm : LocationMatcher.compile rule.location with
  | error e => rfl
  | ok m =>
      have hhits := hitsOf_eq_filter hm ps
      have hnodes : Naive.hits m (ps.map (·.node)) = (hitsOf m (indexed ps) ps).map (·.node) := by
        rw [hhits, map_node_filter (fun node => m.accepts node.location), Naive.hits]
      simp only [Except.mapError_ok, Except.bind_ok, Except.ok_bind, Logged.outcome_reportIf,
        ← hhits, hnodes, List.isEmpty_map]
      cases hitsOf m (indexed ps) ps with
      | nil => rfl
      | cons p rest =>
          simp only [List.isEmpty_cons, Bool.false_eq_true, if_false, Logged.outcome_bind,
            Logged.outcome_pure, outcome_checkHits]
          cases ((p :: rest).map (·.node)).mapM (Naive.check rule) <;> rfl

/-! ## All rules -/

/-- Over all rules, the violations are those of the naive walk, and the marked places are those of
the nodes that some rule describes. -/
lemma outcome_checkRules (options : CompareOptions) (ps : List Placed) (rules : List Rule) :
    (checkRules options (indexed ps) ps rules).outcome
      = (rules.mapM (Naive.checkRule options (ps.map (·.node)))).map fun found =>
          (found.flatten, rules.flatMap (placesOf · ps)) := by
  induction rules with
  | nil => rfl
  | cons rule rest ih =>
      simp only [checkRules, Logged.outcome_bind, Logged.outcome_pure, outcome_checkRule, ih,
        List.mapM_cons]
      cases Naive.checkRule options (ps.map (·.node)) rule with
      | error e => rfl
      | ok violations =>
          cases rest.mapM (Naive.checkRule options (ps.map (·.node))) <;> rfl

/-- A place is marked exactly when some rule describes the node that stands there. -/
lemma contains_places_iff {rules : List Rule} {nodes : List Node} {p : Placed}
    (hp : p ∈ placedFrom 0 nodes) :
    (rules.flatMap (placesOf · (placedFrom 0 nodes))).contains p.place
      = rules.any (Naive.describes · p.node) := by
  rw [Bool.eq_iff_iff, List.contains_iff_mem, List.mem_flatMap, List.any_eq_true]
  refine exists_congr fun rule => and_congr_right fun _ => ?_
  rw [placesOf, List.mem_map]
  constructor
  · rintro ⟨q, hq, hplace⟩
    obtain ⟨hq, hdescribes⟩ := List.mem_filter.mp hq
    rwa [eq_of_place_eq hq hp hplace] at hdescribes
  · intro hdescribes
    exact ⟨p, List.mem_filter.mpr ⟨hp, hdescribes⟩, rfl⟩

/-! ## Extras -/

lemma outcome_checkExtras (info : Bool) (version : Option Version) (described : Array Bool)
    (ps : List Placed) :
    (checkExtras info version described ps).outcome
      = .ok ((ps.filter fun p => !described.getD p.place false && !p.node.implied).map
          fun p => { rule := .undescribed p.node.location version, finding := .unexpected }) := by
  induction ps with
  | nil => rfl
  | cons p rest ih =>
      rw [checkExtras, List.filter_cons, ← Bool.not_or]
      cases described.getD p.place false || p.node.implied with
      | true => exact ih
      | false =>
          simp only [Bool.false_eq_true, if_false, Bool.not_false, if_true, Logged.outcome_bind,
            Logged.outcome_reportIf, Except.bind_ok, ih, Logged.outcome_pure, List.map_cons]

/-- With the flags of a whole run, the extras are the nodes that no rule describes. -/
lemma outcome_checkExtras_marked (info : Bool) (table : RuleTable) (nodes : List Node) :
    (checkExtras info table.version
        (marked nodes.length (table.rules.flatMap (placesOf · (placedFrom 0 nodes))))
        (placedFrom 0 nodes)).outcome
      = .ok (Naive.extras table nodes) := by
  have hfilter : (placedFrom 0 nodes).filter (fun p =>
        !(marked nodes.length (table.rules.flatMap (placesOf · (placedFrom 0 nodes)))).getD
            p.place false && !p.node.implied)
      = (placedFrom 0 nodes).filter fun p =>
        !table.rules.any (Naive.describes · p.node) && !p.node.implied := by
    refine List.filter_congr fun p hp => ?_
    have hbound := (place_bounds hp).2
    rw [Nat.zero_add] at hbound
    rw [getD_marked, contains_places_iff hp]
    simp [hbound]
  have hnodes := map_node_filter
    (fun node => !table.rules.any (Naive.describes · node) && !node.implied) (placedFrom 0 nodes)
  rw [map_node_placedFrom] at hnodes
  rw [outcome_checkExtras, Naive.extras, hfilter, ← hnodes, List.map_map]
  rfl

/-- **The comparison is the naive walk.**  For every layout, table and set of options, looking
literal locations up in an index and marking described nodes in an array gives the same report, or
ends with the same error, as trying every node against every rule. -/
theorem outcome_compare_eq_walk (layout : Layout) (table : RuleTable) (options : CompareOptions) :
    (compare layout table options).outcome = Naive.walk layout table options := by
  have hrules := outcome_checkRules options (placedFrom 0 layout.nodes) table.rules
  rw [map_node_placedFrom] at hrules
  simp only [compare, Naive.walk, Logged.outcome_bind, hrules, length_placedFrom]
  cases table.rules.mapM (Naive.checkRule options layout.nodes) with
  | error e => rfl
  | ok found =>
      simp only [Except.map_ok_eq, Except.bind_ok, Except.ok_bind]
      cases options.checkExtras with
      | false => rfl
      | true =>
          simp only [if_true, Logged.outcome_bind, outcome_checkExtras_marked]
          rfl

end RadarConform.Comparison
