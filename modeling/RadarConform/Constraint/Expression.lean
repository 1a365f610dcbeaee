import RadarConform.Number.Decimal
import RadarConform.Text.Pieces

/-!
# Numeric constraints

A number is constrained by comparing it with a threshold, a sequence by comparing a number computed
from it, and several such clauses may be joined by one connective.

* `Comparator`, `Connective`, `Aggregate`: the words of the notation.
* `Comparison`: a comparator, a threshold and possibly a tolerance, with `Comparison.holds`.
* `Expression`: clauses and chains of them.
* `Expression.text`: the canonical text.
-/

namespace RadarConform

/-- How a number is compared with a threshold. -/
inductive Comparator where
  | equal
  | atLeast
  | atMost
  | greater
  | less
deriving DecidableEq

namespace Comparator

/-- The canonical mark of a comparator. -/
def mark : Comparator → String
  | equal => "=="
  | atLeast => ">="
  | atMost => "<="
  | greater => ">"
  | less => "<"

/-- The comparator of a canonical mark. -/
def ofMark? : String → Option Comparator
  | "==" => some .equal
  | ">=" => some .atLeast
  | "<=" => some .atMost
  | ">" => some .greater
  | "<" => some .less
  | _ => none

/-- The comparator at the start of a text, the longest one, and what follows it. -/
def take : List Char → Option Comparator × List Char
  | '=' :: '=' :: cs => (some .equal, cs)
  | '>' :: '=' :: cs => (some .atLeast, cs)
  | '<' :: '=' :: cs => (some .atMost, cs)
  | '=' :: cs => (some .equal, cs)
  | '>' :: cs => (some .greater, cs)
  | '<' :: cs => (some .less, cs)
  | cs => (none, cs)

end Comparator

/-- How clauses are joined. -/
inductive Connective where
  | and
  | or
deriving DecidableEq

namespace Connective

/-- The mark of a connective. -/
def mark : Connective → String
  | and => "&&"
  | or => "||"

/-- The name of a connective. -/
def name : Connective → String
  | and => "and"
  | or => "or"

end Connective

/-- What is computed from a sequence. -/
inductive Aggregate where
  | min
  | max
  | mean
  | first
  | last
deriving DecidableEq

namespace Aggregate

/-- The name of an aggregate. -/
def name : Aggregate → String
  | min => "min"
  | max => "max"
  | mean => "mean"
  | first => "first"
  | last => "last"

/-- The aggregate of a name. -/
def ofName? : String → Option Aggregate
  | "min" => some .min
  | "max" => some .max
  | "mean" => some .mean
  | "first" => some .first
  | "last" => some .last
  | _ => none

/-- Why nothing can be computed from a sequence. -/
inductive Failure where
  | empty
  | notFinite (index : Nat) (value : Number)
deriving DecidableEq

/-- The first element that is not finite, with its place counted from `start`. -/
def firstNotFinite (start : Nat) : List Number → Option (Nat × Number)
  | [] => none
  | x :: xs => if x.isFinite then firstNotFinite (start + 1) xs else some (start, x)

/-- The value for a sequence that is not empty.  The mean is the sum, taken from left to right from
minus zero, over the count. -/
def combine : Aggregate → Number → List Number → Number
  | min, x, xs => xs.foldl Number.min x
  | max, x, xs => xs.foldl Number.max x
  | mean, x, xs =>
    ((x :: xs).foldl Number.add Number.zero.neg).divCount (xs.length + 1)
  | first, x, _ => x
  | last, x, xs => (xs.getLast?).getD x

/-- The value for a sequence.  Elements that are not finite are refused before the sequence is
found to be empty or not. -/
def apply (a : Aggregate) (xs : List Number) : Except Failure Number :=
  match firstNotFinite 0 xs with
  | some (index, value) => .error (.notFinite index value)
  | none =>
    match xs with
    | [] => .error .empty
    | x :: rest => .ok (a.combine x rest)

end Aggregate

/-- A comparison with a threshold.  A tolerance is meant for equality and ignored elsewhere. -/
structure Comparison where
  comparator : Comparator
  threshold : Number
  tolerance : Option Number
deriving DecidableEq

namespace Comparison

/-- Whether a number satisfies a comparison; equality with a tolerance holds up to that distance,
the distance being rounded. -/
def holds (c : Comparison) (x : Number) : Bool :=
  match c.comparator with
  | .equal =>
    match c.tolerance with
    | some tolerance => (x.sub c.threshold).abs.le tolerance
    | none => x.eq c.threshold
  | .atLeast => c.threshold.le x
  | .atMost => x.le c.threshold
  | .greater => c.threshold.lt x
  | .less => x.lt c.threshold

/-- The canonical text of a comparison. -/
def text (c : Comparison) : String :=
  c.comparator.mark ++ c.threshold.text ++
    match c.tolerance with
    | some tolerance => "+-" ++ tolerance.text
    | none => ""

/-- Equality up to the sign of zeros; a comparison with `nan` in it equals nothing. -/
def same (c d : Comparison) : Bool :=
  c.comparator == d.comparator && c.threshold.eq d.threshold &&
    match c.tolerance, d.tolerance with
    | some x, some y => x.eq y
    | none, none => true
    | _, _ => false

end Comparison

/-- A numeric constraint. -/
inductive Expression where
  | comparison (c : Comparison)
  | aggregate (a : Aggregate) (c : Comparison)
  | chain (connective : Connective) (operands : List Expression)

namespace Expression

mutual

/-- The canonical text. -/
def text : Expression → String
  | comparison c => c.text
  | aggregate a c => a.name ++ c.text
  | chain connective operands => chainText connective.mark operands

/-- The texts of operands with the mark of a connective between them. -/
def chainText (mark : String) : List Expression → String
  | [] => ""
  | [e] => e.text
  | e :: d :: rest => e.text ++ mark ++ chainText mark (d :: rest)

end

mutual

/-- Equality of expressions, in which numbers are compared as numbers. -/
def same : Expression → Expression → Bool
  | comparison c, comparison d => c.same d
  | aggregate a c, aggregate b d => a == b && c.same d
  | chain k xs, chain l ys => k == l && sameAll xs ys
  | _, _ => false

/-- Equality of lists of expressions. -/
def sameAll : List Expression → List Expression → Bool
  | [], [] => true
  | x :: xs, y :: ys => same x y && sameAll xs ys
  | _, _ => false

end

end Expression

end RadarConform
