/-!
# Tables of code point ranges

A set of code points is stored as the ascending list of the points at which membership turns: the
first point is in the set, the second no longer, and so on.  A code point belongs to the set when
an odd number of turning points is at or below it.  In the source the turning points stand as
steps from one to the next, in hexadecimal.

* `RangeTable`: the turning points, with `RangeTable.ofDeltas` and `RangeTable.contains`.
* `RangeTable.ranges`: the set as a list of ranges.
* `RangeTable.find?`: the table of a name in a list of named tables.
-/

namespace RadarConform.Unicode

/-- The words of a text, with spaces and line breaks between. -/
def words (s : String) : List String :=
  ((s.splitOn "\n").flatMap (·.splitOn " ")).filter (· ≠ "")

/-- The value of a lower-case hexadecimal numeral. -/
def hexValue (s : String) : Nat :=
  s.foldl (fun n c => 16 * n + (if c ≤ '9' then c.toNat - 48 else c.toNat - 87)) 0

/-- The number of entries of an ascending array that are at most `n`, searched for in the part
from `low` up to, not including, `high`; `fuel` bounds the number of halvings. -/
def countUpToBetween (turns : Array Nat) (n : Nat) : (fuel low high : Nat) → Nat
  | 0, low, _ => low
  | fuel + 1, low, high =>
    if low < high then
      let middle := (low + high) / 2
      if turns.getD middle 0 ≤ n then countUpToBetween turns n fuel (middle + 1) high
      else countUpToBetween turns n fuel low middle
    else low

/-- The number of entries of an ascending array that are at most `n`. -/
def countUpTo (turns : Array Nat) (n : Nat) : Nat :=
  countUpToBetween turns n (turns.size + 1) 0 turns.size

/-- A set of code points, given by the ascending points at which membership turns. -/
structure RangeTable where
  turns : Array Nat

namespace RangeTable

/-- Reads the steps between turning points, which are hexadecimal numerals. -/
def ofDeltas (s : String) : RangeTable :=
  let steps := (words s).map hexValue
  { turns := (steps.foldl (fun (last, out) d => (last + d, out.push (last + d))) (0, #[])).2 }

/-- Whether a code point belongs to the set. -/
def contains (t : RangeTable) (n : Nat) : Bool := countUpTo t.turns n % 2 == 1

/-- The ranges between turning points, both ends included. -/
def rangesOf : List Nat → List (Nat × Nat)
  | first :: next :: rest => (first, next - 1) :: rangesOf rest
  | _ => []

/-- The set as ranges, both ends included, in ascending order. -/
def ranges (t : RangeTable) : List (Nat × Nat) := rangesOf t.turns.toList

/-- The table listed under a name. -/
def find? (tables : List (List String × String)) (name : String) : Option RangeTable :=
  (tables.find? (fun t => t.1.contains name)).map (fun t => ofDeltas t.2)

end RangeTable

end RadarConform.Unicode
