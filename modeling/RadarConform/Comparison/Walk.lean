import RadarConform.Comparison.Matcher
import RadarConform.Comparison.Report
import RadarConform.Constraint.SourceIdentifier
import RadarConform.Layout
import Std.Data.HashMap

/-!
# Comparing a layout with a rule table

The rules are taken in the order of the table.  A rule hits the nodes that its location describes;
a mandatory rule without a hit is a violation, and every hit is checked against the kind and the
constraint of the rule.  Optional rules are checked, too, so that a constraint that cannot be used
shows, but what they find counts only when it is asked for.  In the end, nodes that no rule hit are
violations when that is asked for, unless they are only implied.

* `checkNode`: one rule at one node.
* `hitsOf`: the nodes that a rule hits; a location without patterns is looked up in an index.
* `compare`: the whole comparison.
-/

namespace RadarConform

namespace Comparison

/-! ## One rule at one node -/

/-- Whether a location is that of a source identifier. -/
def isSourceIdentifier (l : Location) : Bool :=
  l.attributeName == some "source" && l.lastSegment? == some "what"

/-- Evaluates the constraint of a rule on the value of a node. -/
def evaluateAt (info : Bool) (rule : Rule) (node : Node) (value : AttributeValue) :
    Logged ConstraintError Outcome :=
  let constraint := Text.trimmed rule.constraint
  match value with
  | .text s =>
    if isSourceIdentifier node.location then SourceIdentifier.evaluate info s constraint
    else evaluateText info value constraint
  | _ => evaluateText info value constraint

/-- Whether a node is not of the kind that a rule declares; a group or dataset has no value, and
only an attribute needs one. -/
def kindFinding? (rule : Rule) (node : Node) : Option Finding := do
  let expected ← rule.kind
  let actual := node.value.map (·.kind)
  let mismatched := match actual with
    | some kind => kind != expected
    | none => node.location.isAttribute
  if mismatched then some (.kindMismatch node.location expected actual) else none

/-- Checks a node that a rule hits: its kind first, then its value. -/
def checkNode (info : Bool) (rule : Rule) (node : Node) : Logged CompareError (Option Finding) :=
  match kindFinding? rule node with
  | some finding => pure (some finding)
  | none =>
    match node.value with
    | none => pure none
    | some value =>
      if rule.isPresenceOnly then pure none
      else do
        let o ← (evaluateAt info rule node value).mapError
          (.constraint rule.location rule.constraint)
        return if o.matched then none else some (.valueMismatch node.location o.explanation)

/-! ## Hits -/

/-- A node with its place in the layout. -/
structure Placed where
  place : Nat
  node : Node

/-- Nodes with their places, the first of which is given. -/
def placedFrom (n : Nat) : List Node → List Placed
  | [] => []
  | node :: rest => { place := n, node } :: placedFrom (n + 1) rest

/-- The nodes of a layout by their locations, those at one location in the order of the layout. -/
def indexed : List Placed → Std.HashMap Location (List Placed)
  | [] => ∅
  | p :: rest =>
    let index := indexed rest
    index.insert p.node.location (p :: index.getD p.node.location [])

/-- The nodes that a rule hits, in the order of the layout. -/
def hitsOf (m : LocationMatcher) (index : Std.HashMap Location (List Placed))
    (nodes : List Placed) : List Placed :=
  if m.isLiteral then index.getD m.location []
  else nodes.filter fun p => m.accepts p.node.location

/-! ## All rules -/

/-- Checks the nodes that a rule hits, up to the first error; the violations are those of the
failing ones, if the rule is enforced. -/
def checkHits (info : Bool) (rule : Rule) (enforced : Bool) :
    List Placed → Logged CompareError (List Violation)
  | [] => pure []
  | p :: rest => do
    let finding ← checkNode info rule p.node
    let later ← checkHits info rule enforced rest
    return match finding with
      | some finding => if enforced then { rule, finding } :: later else later
      | none => later

/-- Checks one rule: its violations, and the places of the nodes that it describes. -/
def checkRule (options : CompareOptions) (index : Std.HashMap Location (List Placed))
    (nodes : List Placed) (rule : Rule) : Logged CompareError (List Violation × List Nat) := do
  let m ← (LocationMatcher.compile rule.location).mapError
    fun e => CompareError.locationPattern e.location e.segment
  let hits := hitsOf m index nodes
  .reportIf options.info
    (.checkingRule rule.location rule.mandatory rule.constraint hits.length)
  if hits.isEmpty then
    return (if rule.mandatory then [{ rule, finding := .missing }] else [], [])
  else
    let violations ←
      checkHits options.info rule (rule.mandatory || options.checkOptional) hits
    return (violations, hits.map (·.place))

/-- Checks rules one after the other, up to the first error. -/
def checkRules (options : CompareOptions) (index : Std.HashMap Location (List Placed))
    (nodes : List Placed) : List Rule → Logged CompareError (List Violation × List Nat)
  | [] => pure ([], [])
  | rule :: rest => do
    let (violations, places) ← checkRule options index nodes rule
    let (moreViolations, morePlaces) ← checkRules options index nodes rest
    return (violations ++ moreViolations, places ++ morePlaces)

/-! ## Nodes that no rule describes -/

/-- The places marked in an array of flags. -/
def marked (size : Nat) (places : List Nat) : Array Bool :=
  places.foldl (fun flags place => flags.setIfInBounds place true) (Array.replicate size false)

/-- The violations for nodes that are neither described nor merely implied. -/
def checkExtras (info : Bool) (version : Option Version) (described : Array Bool) :
    List Placed → Logged CompareError (List Violation)
  | [] => pure []
  | p :: rest =>
    if described.getD p.place false || p.node.implied then
      checkExtras info version described rest
    else do
      .reportIf info (.undescribedNode p.node.location)
      let later ← checkExtras info version described rest
      return { rule := .undescribed p.node.location version, finding := .unexpected } :: later

end Comparison

open Comparison in
/-- Compares a layout with a rule table. -/
def compare (layout : Layout) (table : RuleTable) (options : CompareOptions) :
    Logged CompareError Report := do
  let nodes := placedFrom 0 layout.nodes
  let (violations, places) ← checkRules options (indexed nodes) nodes table.rules
  let extras ←
    if options.checkExtras then
      checkExtras options.info table.version (marked nodes.length places) nodes
    else pure []
  let violations := violations ++ extras
  .report (.compared table.rules.length nodes.length violations.length)
  return { violations, rulesChecked := table.rules.length, nodesObserved := nodes.length }

end RadarConform
