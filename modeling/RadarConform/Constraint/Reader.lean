import RadarConform.Constraint.Error
import RadarConform.Text.Blank

/-!
# Reading numeric constraints

A constraint is one clause or several with one connective between all of them.  A clause for a
sequence is an aggregate, a comparator and a threshold; a clause for a number has no aggregate and
may leave the comparator out, which then means equality.  White space may surround every part.

* `Clause.parse`: one clause.
* `Expression.parse`: a whole constraint.
-/

namespace RadarConform

/-- An error at a part of the text of a constraint. -/
def faultAt {α : Type} (fragment : List Char) (fault : Fault) : Except ConstraintError α :=
  .error (.invalid (.ofList fragment) fault)

namespace Clause

/-- An ASCII letter, of which the names of aggregates are made. -/
def isLetter (c : Char) : Bool := ('a' ≤ c && c ≤ 'z') || ('A' ≤ c && c ≤ 'Z')

/-- A finite number; `clause` is the clause it stands in. -/
def number (clause text : List Char) (role : NumberRole) : Except ConstraintError Number :=
  let text := Text.trim text
  if text = [] then faultAt clause (.numberMissing role)
  else
    match Number.ofText? text with
    | none => faultAt clause (.numberInvalid role (.ofList text))
    | some x => if x.isFinite then .ok x else faultAt clause (.numberNotFinite role)

/-- The tolerance of a comparison, if there is one. -/
def tolerance (clause : List Char) (comparator : Comparator) :
    Option (List Char) → Except ConstraintError (Option Number)
  | none => .ok none
  | some text =>
    if comparator ≠ .equal then faultAt clause .toleranceMisplaced
    else do
      let x ← number clause text .tolerance
      if x.lt .zero then faultAt clause .toleranceNegative else return some x

/-- The text of the threshold and, after `+-`, that of the tolerance. -/
def thresholdAndTolerance (text : List Char) : List Char × Option (List Char) :=
  match Text.cutAt ['+', '-'] text with
  | some (before, after) => (before, some after)
  | none => (text, none)

/-- A comparison; `marked` says that the comparator must be written. -/
def comparison (clause text : List Char) (marked : Bool) :
    Except ConstraintError Comparison := do
  let (comparator?, rest) := Comparator.take text
  if comparator? = none ∧ marked then faultAt clause .comparatorMissing
  else
    let comparator := comparator?.getD .equal
    let (thresholdText, toleranceText) := thresholdAndTolerance rest
    let threshold ← number clause thresholdText .threshold
    let tolerance ← tolerance clause comparator toleranceText
    return { comparator, threshold, tolerance }

/-- The aggregate whose name starts a clause, if a word does. -/
def selector (clause : List Char) : Except ConstraintError (Option Aggregate) :=
  let word := clause.takeWhile isLetter
  if word = [] then .ok none
  else
    match Aggregate.ofName? (.ofList word) with
    | some a => .ok (some a)
    | none => faultAt clause (.unknownWord (.ofList word))

/-- Reads one clause of a constraint for values of a kind. -/
def parse (text : List Char) (kind : ValueKind) : Except ConstraintError Expression := do
  let clause := Text.trim text
  if clause = [] then faultAt text .emptyExpression
  else
    match kind, ← selector clause with
    | .numberSequence, none => faultAt clause .aggregateMissing
    | .numberSequence, some a => do
      let rest := Text.trimStart (clause.dropWhile isLetter)
      return .aggregate a (← comparison clause rest true)
    | _, some a => faultAt clause (.aggregateMisplaced a)
    | _, none => return .comparison (← comparison clause clause false)

end Clause

namespace Expression

/-- Reads the clauses of a chain; a blank one is an error of the whole text. -/
def clauses (text : List Char) (connective : Connective) (kind : ValueKind) :
    List (List Char) → Except ConstraintError (List Expression)
  | [] => .ok []
  | clause :: rest => do
    if Text.trim clause = [] then faultAt text (.emptyClause connective)
    else
      let first ← Clause.parse clause kind
      return first :: (← clauses text connective kind rest)

/-- Reads a constraint for values of a kind. -/
def parse (text : String) (kind : ValueKind) : Except ConstraintError Expression :=
  let cs := text.toList
  match Text.holds ['&', '&'] cs, Text.holds ['|', '|'] cs with
  | true, true => faultAt cs .mixedConnectives
  | true, false =>
    (clauses cs .and kind (Text.piecesAt ['&', '&'] (by decide) cs)).map (.chain .and)
  | false, true =>
    (clauses cs .or kind (Text.piecesAt ['|', '|'] (by decide) cs)).map (.chain .or)
  | false, false => Clause.parse cs kind

end Expression

end RadarConform
