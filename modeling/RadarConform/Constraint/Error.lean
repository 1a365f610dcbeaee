import RadarConform.Constraint.Expression
import RadarConform.Text.Quoted
import RadarConform.Value

/-!
# Errors of constraints

* `Fault`: what is wrong with a constraint or with the value it is applied to.
* `ConstraintError`: a fault at a part of the text, or an aggregate that cannot be computed.
-/

namespace RadarConform

/-- The numbers of a comparison. -/
inductive NumberRole where
  | threshold
  | tolerance
deriving DecidableEq

/-- The name of a number of a comparison. -/
def NumberRole.name : NumberRole → String
  | .threshold => "threshold"
  | .tolerance => "tolerance"

/-- What is wrong with a constraint, or with the value it is applied to. -/
inductive Fault where
  | mixedConnectives
  | emptyClause (connective : Connective)
  | emptyExpression
  | unknownWord (word : String)
  | aggregateMissing
  | aggregateMisplaced (a : Aggregate)
  | comparatorMissing
  | numberMissing (role : NumberRole)
  | numberInvalid (role : NumberRole) (text : String)
  | numberNotFinite (role : NumberRole)
  | toleranceMisplaced
  | toleranceNegative
  | patternInvalid
  | kindMismatch (constraint value : ValueKind)
  /-- A pattern on a value that is no text. -/
  | patternMisplaced
  | numberNeeded (found : ValueKind)
  | sequenceNeeded (found : ValueKind)
deriving DecidableEq

/-- What a fault says. -/
def Fault.message : Fault → String
  | .mixedConnectives => "mixing '&&' and '||' in one expression is not supported"
  | .emptyClause connective => "empty clause around '" ++ connective.mark ++ "'"
  | .emptyExpression => "empty expression"
  | .unknownWord word => "unknown aggregate or comparator " ++ Text.quoted word
  | .aggregateMissing =>
    "no aggregate specified for a number sequence (use min, max, mean, first or last)"
  | .aggregateMisplaced a => "aggregate '" ++ a.name ++ "' applies only to number sequences"
  | .comparatorMissing => "expected a comparator after the aggregate"
  | .numberMissing role => "missing " ++ role.name
  | .numberInvalid role text => "invalid " ++ role.name ++ " " ++ Text.quoted text
  | .numberNotFinite role => role.name ++ " must be finite"
  | .toleranceMisplaced => "a tolerance is only allowed after '=' or '=='"
  | .toleranceNegative => "tolerance must not be negative"
  | .patternInvalid => "<regex error>"
  | .kindMismatch constraint value =>
    "constraint parsed for " ++ constraint.name ++ " values cannot apply to a " ++ value.name
      ++ " value"
  | .patternMisplaced => "text pattern cannot apply to a numeric value"
  | .numberNeeded found =>
    "comparison requires a scalar number, found a " ++ found.name ++ " value"
  | .sequenceNeeded found =>
    "aggregate requires a number sequence, found a " ++ found.name ++ " value"

/-- Why a constraint cannot be read or evaluated. -/
inductive ConstraintError where
  /-- A fault at a part of the text of the constraint. -/
  | invalid (fragment : String) (fault : Fault)
  | emptySequence (a : Aggregate)
  | notFinite (a : Aggregate) (index : Nat) (value : Number)
deriving DecidableEq

/-- The message of an error. -/
def ConstraintError.message : ConstraintError → String
  | .invalid fragment fault =>
    "invalid constraint " ++ Text.quoted fragment ++ ": " ++ fault.message
  | .emptySequence a => "cannot compute '" ++ a.name ++ "' of an empty sequence"
  | .notFinite a index value =>
    "cannot compute '" ++ a.name ++ "': element " ++ toString index ++ " is " ++ value.text

/-- The error for an aggregate that cannot be computed. -/
def ConstraintError.ofFailure (a : Aggregate) : Aggregate.Failure → ConstraintError
  | .empty => .emptySequence a
  | .notFinite index value => .notFinite a index value

end RadarConform
