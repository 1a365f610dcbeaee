import RadarConform.Pattern.Basic

/-!
# Searching

The search computes with sets of positions: from the set of positions at which a pattern may start
it finds the set of all positions at which it may stop.  A set of positions is a natural number,
bit `i` standing for position `i`, so a step for all positions at once is one operation on
numbers.

* `Steps`: a pattern prepared for one text: each condition and each character set is replaced by
  the set of positions at which it holds.
* `Steps.reach`: the positions that can be reached from a set of positions.
* `Pattern.found`: whether a pattern is found in a text.
-/

namespace RadarConform

namespace Pattern

/-- A pattern prepared for one text. -/
inductive Steps where
  | stay
  /-- Stays at the positions of the set. -/
  | stayAt (positions : Nat)
  /-- Moves on by one from the positions of the set. -/
  | advance (positions : Nat)
  | seq (p q : Steps)
  | alt (p q : Steps)
  | times (p : Steps) (least : Nat) (most : Option Nat)

/-- The set of the positions `0, …, n - 1` at which a test holds. -/
def positionsWhere (test : Nat → Bool) : Nat → Nat
  | 0 => 0
  | n + 1 => if test n then positionsWhere test n ||| 1 <<< n else positionsWhere test n

/-- Whether a character stands after a position and belongs to a set. -/
def startsIn (w : Array Char) (s : CharSet) (i : Nat) : Bool :=
  match w[i]? with
  | some c => s.contains c
  | none => false

/-- Whether a condition allows a position of a text. -/
def allowsAt (w : Array Char) (l : Look) (i : Nat) : Bool :=
  l.allows (if i = 0 then none else w[i - 1]?) w[i]?

/-- A pattern prepared for a text. -/
def prepared (w : Array Char) : Pattern → Steps
  | .empty => .stay
  | .one s => .advance (positionsWhere (startsIn w s) w.size)
  | .look l => .stayAt (positionsWhere (allowsAt w l) (w.size + 1))
  | .seq p q => .seq (prepared w p) (prepared w q)
  | .alt p q => .alt (prepared w p) (prepared w q)
  | .times p least most _ => .times (prepared w p) least most
  | .group _ p => prepared w p

/-- A step applied a number of times; it ends early at a set that the step leaves as it is. -/
def iterate (step : Nat → Nat) : (count : Nat) → Nat → Nat
  | 0, s => s
  | count + 1, s =>
    let next := step s
    if next = s then s else iterate step count next

/-- The positions of `seen` and all that are reached from `fresh` in at most `count` steps; a
position that was seen before is not followed again. -/
def spread (step : Nat → Nat) : (count : Nat) → (fresh seen : Nat) → Nat
  | 0, _, seen => seen
  | count + 1, fresh, seen =>
    let next := step fresh
    let new := next ^^^ (next &&& seen)
    if new = 0 then seen else spread step count new (seen ||| new)

namespace Steps

/-- The positions that can be reached from a set of positions in a text of `size` characters.  No
more than `size + 1` repetitions can lead anywhere new. -/
def reach (size : Nat) : Steps → Nat → Nat
  | stay, s => s
  | stayAt positions, s => s &&& positions
  | advance positions, s => (s &&& positions) <<< 1
  | seq p q, s => q.reach size (p.reach size s)
  | alt p q, s => p.reach size s ||| q.reach size s
  | times p least most, s =>
    let start := iterate (p.reach size) least s
    let budget := match most with
      | none => size + 1
      | some m => min (m - least) (size + 1)
    spread (p.reach size) budget start start

end Steps

/-- The set of all positions of a text, its end included. -/
def allPositions (size : Nat) : Nat := Nat.pow 2 (size + 1) - 1

/-- Whether a pattern is found in a text. -/
def found (p : Pattern) (text : List Char) : Bool :=
  let w := text.toArray
  (prepared w p).reach w.size (allPositions w.size) != 0

end Pattern

end RadarConform
