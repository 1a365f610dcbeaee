import RadarConform.Constraint.Error
import RadarConform.Rule

/-!
# Reports

* `Finding`: in what way a rule fails.
* `Violation`: a failing rule with the finding, and its text.
* `Report`: the violations of a layout.
* `CompareOptions`: what is checked.
* `CompareError`: why a comparison cannot be carried out.
-/

namespace RadarConform

/-- In what way a rule fails. -/
inductive Finding where
  /-- A mandatory node is not there. -/
  | missing
  /-- A node's value does not satisfy the constraint. -/
  | valueMismatch (observed : Location) (explanation : String)
  /-- A node's value is not of the declared kind; a group or dataset has no value. -/
  | kindMismatch (observed : Location) (expected : ValueKind) (actual : Option ValueKind)
  /-- No rule describes the node. -/
  | unexpected
deriving DecidableEq

/-- A rule that fails.  For a node that no rule describes, the rule is one made for it. -/
structure Violation where
  rule : Rule
  finding : Finding
deriving DecidableEq

namespace Violation

/-- What a violation says. -/
def text (v : Violation) : String :=
  let status := if v.rule.mandatory then "mandatory" else "optional"
  match v.finding with
  | .missing => v.rule.location.text ++ ": " ++ status ++ " entry is missing"
  | .valueMismatch observed explanation =>
    observed.text ++ ": " ++ status ++ " entry does not satisfy "
      ++ Text.quoted v.rule.constraint ++ ": " ++ explanation
  | .kindMismatch observed expected actual =>
    let found := match actual with
      | some kind => kind.name
      | none => "group or dataset"
    observed.text ++ ": " ++ status ++ " entry should be a " ++ expected.name ++ " value, found "
      ++ found
  | .unexpected => v.rule.location.text ++ ": present but not described by the standard"

end Violation

/-- The result of a comparison. -/
structure Report where
  violations : List Violation
  rulesChecked : Nat
  nodesObserved : Nat
deriving DecidableEq

/-- Whether a report has no violations. -/
def Report.isCompliant (r : Report) : Bool := r.violations.isEmpty

/-- What is checked, and whether single steps are reported as events. -/
structure CompareOptions where
  /-- Optional rules that fail are violations, too. -/
  checkOptional : Bool
  /-- Nodes that no rule describes are violations. -/
  checkExtras : Bool
  info : Bool
deriving DecidableEq

namespace CompareOptions

/-- Only mandatory rules count. -/
def standard : CompareOptions := { checkOptional := false, checkExtras := false, info := true }

/-- All rules and all nodes count. -/
def strict : CompareOptions := { checkOptional := true, checkExtras := true, info := true }

instance : Inhabited CompareOptions := ⟨standard⟩

end CompareOptions

/-- A defect of a rule table that keeps a comparison from being carried out. -/
inductive CompareError where
  | constraint (location : Location) (text : String) (cause : ConstraintError)
  | locationPattern (location : Location) (segment : String)
deriving DecidableEq

namespace CompareError

/-- The message of an error. -/
def message : CompareError → String
  | constraint location text cause =>
    "rule " ++ location.text ++ " has an unusable constraint " ++ Text.quoted text ++ ": "
      ++ cause.message
  | locationPattern location segment =>
    "rule location " ++ location.text ++ " has an invalid segment pattern " ++ Text.quoted segment
      ++ ": <regex error>"

/-- The messages of an error and of the errors that caused it, the outermost first. -/
def chain (e : CompareError) : List String :=
  match e with
  | constraint _ _ cause => [e.message, cause.message]
  | locationPattern _ _ => [e.message]

end CompareError

end RadarConform
