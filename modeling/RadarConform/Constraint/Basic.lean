import RadarConform.Constraint.Reader
import RadarConform.Pattern.Automaton

/-!
# Constraints

A constraint on texts is a pattern, one on numbers or sequences a numeric expression.

* `Constraint`: the text of a constraint, the kind of values it is for, and what was read from it.
* `Constraint.parse`: the reader.
-/

namespace RadarConform

/-- What was read from the text of a constraint. -/
inductive ConstraintBody where
  | pattern (p : Pattern)
  | expression (e : Expression)

/-- A constraint on values of one kind. -/
structure Constraint where
  text : String
  kind : ValueKind
  body : ConstraintBody

namespace Constraint

/-- Reads a constraint for values of a kind. -/
def parse (text : String) (kind : ValueKind) : Except ConstraintError Constraint :=
  match kind with
  | .text =>
    match Pattern.compiled? text with
    | some p => .ok { text, kind, body := .pattern p }
    | none => .error (.invalid text .patternInvalid)
  | _ => (Expression.parse text kind).map fun e => { text, kind, body := .expression e }

/-- The numeric expression of a constraint on numbers or sequences. -/
def expression? (c : Constraint) : Option Expression :=
  match c.body with
  | .expression e => some e
  | .pattern _ => none

/-- Whether a constraint is a pattern. -/
def isPattern (c : Constraint) : Bool :=
  match c.body with
  | .pattern _ => true
  | .expression _ => false

/-- Two constraints are the same when their texts and kinds are. -/
def same (c d : Constraint) : Bool := c.text == d.text && c.kind == d.kind

end Constraint

end RadarConform
