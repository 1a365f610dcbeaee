import RadarConform.Constraint.Basic
import RadarConform.Event
import RadarConform.Pattern.Search

/-!
# Evaluation of constraints

A constraint that a value does not satisfy gives an explanation, which names the clause that fails
and the number it was compared with.

* `Outcome`: whether a value satisfies a constraint, and if not, why.
* `Expression.evaluate`: numeric constraints.
* `Constraint.evaluate`: all constraints.
* `evaluateText`: a constraint given by its text, read for the kind of the value.
-/

namespace RadarConform

/-- Whether a value satisfies a constraint; the explanation is empty when it does. -/
structure Outcome where
  matched : Bool
  explanation : String
deriving DecidableEq

namespace Outcome

/-- The outcome of a value that satisfies a constraint. -/
def pass : Outcome := { matched := true, explanation := "" }

/-- The outcome of a value that does not. -/
def fail (explanation : String) : Outcome := { matched := false, explanation }

end Outcome

/-- The outcome of comparing a number, which `subject` names. -/
def Comparison.outcome (c : Comparison) (subject : String) (x : Number) : Outcome :=
  if c.holds x then .pass
  else .fail (subject ++ " " ++ x.text ++ " does not satisfy " ++ c.text)

/-- The outcome of a chain from the outcomes of its clauses.  A failing conjunction lists the
explanations of the clauses that fail; a failing disjunction names itself, too. -/
def Connective.outcome (k : Connective) (chain : String) (outcomes : List Outcome) : Outcome :=
  let reasons := Text.joined "; " ((outcomes.filter (!·.matched)).map (·.explanation))
  match k with
  | .and => if outcomes.all (·.matched) then .pass else .fail reasons
  | .or =>
    if outcomes.any (·.matched) then .pass
    else .fail ("no alternative of " ++ chain ++ " holds: " ++ reasons)

namespace Expression

mutual

/-- Evaluates a numeric constraint on a value.  All clauses of a chain are evaluated, so an error in
any of them shows whatever the others say. -/
def evaluate : Expression → AttributeValue → Except ConstraintError Outcome
  | comparison c, .number x => .ok (c.outcome "value" x)
  | comparison c, v => .error (.invalid c.text (.numberNeeded v.kind))
  | aggregate a c, .sequence xs =>
    match a.apply xs with
    | .ok x => .ok (c.outcome a.name x)
    | .error e => .error (.ofFailure a e)
  | aggregate a c, v => .error (.invalid (text (.aggregate a c)) (.sequenceNeeded v.kind))
  | chain k operands, v =>
    (evaluateAll operands v).map (k.outcome (text (.chain k operands)))

/-- Evaluates expressions one after the other, up to the first error. -/
def evaluateAll : List Expression → AttributeValue → Except ConstraintError (List Outcome)
  | [], _ => .ok []
  | e :: rest, v => do
    let first ← evaluate e v
    return first :: (← evaluateAll rest v)

end

end Expression

namespace Constraint

/-- The outcome of a constraint on a value of its kind. -/
def outcome (c : Constraint) (v : AttributeValue) : Except ConstraintError Outcome :=
  if c.kind ≠ v.kind then .error (.invalid c.text (.kindMismatch c.kind v.kind))
  else
    match c.body, v with
    | .pattern p, .text s =>
      if p.found s.toList then .ok .pass
      else
        .ok (.fail ("actual value " ++ Text.quoted s ++ " does not match expected "
          ++ Text.quoted c.text))
    | .pattern _, _ => .error (.invalid c.text .patternMisplaced)
    | .expression e, v => e.evaluate v

/-- Evaluates a constraint and reports what came out, where reports are wanted. -/
def evaluate (c : Constraint) (info : Bool) (v : AttributeValue) :
    Logged ConstraintError Outcome := do
  let o ← c.outcome v
  .reportIf info (.evaluated c.text v o.matched)
  return o

end Constraint

/-- Evaluates a constraint given by its text, read for the kind of the value. -/
def evaluateText (info : Bool) (v : AttributeValue) (constraint : String) :
    Logged ConstraintError Outcome := do
  let c ← Constraint.parse constraint v.kind
  c.evaluate info v

end RadarConform
