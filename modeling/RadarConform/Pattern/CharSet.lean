import RadarConform.Unicode.CaseFolding
import RadarConform.Unicode.WordCharacter

/-!
# Sets of characters

A pattern consumes one character at a time, each from a set.  A set is kept as its ranges of code
points in ascending order, so that operations on sets walk along two lists of ranges, and what a set
takes in memory can be counted.  Surrogates are no characters: a range may run across them and never
starts or ends among them.

* `CharSet`: the sets, with `CharSet.contains`.
* `CharSet.union`, `CharSet.inter`, `CharSet.diff`, `CharSet.symmDiff`, `CharSet.compl`: the
  operations.
* `CharSet.folded`: a set closed under case.
-/

namespace RadarConform.Pattern

/-- A set of characters: its ranges of code points, both ends included, in ascending order and with
a gap between neighbours. -/
structure CharSet where
  ranges : List (Nat × Nat)
deriving DecidableEq

namespace CharSet

/-- Whether a character belongs to a set. -/
def contains (s : CharSet) (c : Char) : Bool :=
  s.ranges.any fun r => r.1 ≤ c.toNat && c.toNat ≤ r.2

/-! ## Ranges -/

/-- The last code point. -/
def maxCode : Nat := 0x10FFFF

/-- The code point of the character after the one of a code point. -/
def codeAfter (n : Nat) : Nat := if n = 0xD7FF then 0xE000 else n + 1

/-- The code point of the character before the one of a code point. -/
def codeBefore (n : Nat) : Nat := if n = 0xE000 then 0xD7FF else n - 1

/-- Ranges in ascending order of their starts, with those put together that touch or overlap. -/
def joined : List (Nat × Nat) → List (Nat × Nat)
  | [] => []
  | [r] => [r]
  | r :: s :: rest =>
    if s.1 ≤ r.2 + 1 then joined ((r.1, max r.2 s.2) :: rest) else r :: joined (s :: rest)
termination_by rs => rs.length

/-- The set of some ranges in any order. -/
def ofRanges (rs : List (Nat × Nat)) : CharSet where
  ranges := joined (rs.mergeSort fun r s => r.1 ≤ s.1)

/-- The set of the code points of some tables. -/
def ofTables (ts : List Unicode.RangeTable) : CharSet := ofRanges (ts.flatMap (·.ranges))

/-! ## Simple sets -/

/-- No character. -/
def empty : CharSet := { ranges := [] }

/-- All characters. -/
def any : CharSet := { ranges := [(0, maxCode)] }

/-- The characters from the first to the second, both included. -/
def range (low high : Char) : CharSet := { ranges := [(low.toNat, high.toNat)] }

/-- The set of one character. -/
def single (c : Char) : CharSet := range c c

/-- The decimal digits of all scripts. -/
def digit : CharSet := ofTables [Unicode.digits]

/-- White space. -/
def blank : CharSet := ofTables [Unicode.tableOr Unicode.properties "whitespace"]

/-- Word characters. -/
def word : CharSet := ofTables Unicode.wordTables

/-! ## Operations -/

/-- The characters of either set. -/
def union (a b : CharSet) : CharSet := ofRanges (a.ranges ++ b.ranges)

/-- What two lists of ranges have in common. -/
def commonRanges : List (Nat × Nat) → List (Nat × Nat) → List (Nat × Nat)
  | r :: rs, s :: ss =>
    let low := max r.1 s.1
    let high := min r.2 s.2
    let later := if r.2 < s.2 then commonRanges rs (s :: ss) else commonRanges (r :: rs) ss
    if low ≤ high then (low, high) :: later else later
  | _, _ => []
termination_by rs ss => rs.length + ss.length

/-- The characters of both sets. -/
def inter (a b : CharSet) : CharSet := { ranges := commonRanges a.ranges b.ranges }

/-- The gaps that ranges leave from a code point on: where the first character of a gap and the last
one are.  Between ranges that meet at the surrogates the last one comes before the first. -/
def gapsFrom (low : Nat) : List (Nat × Nat) → List (Nat × Nat)
  | [] => if low ≤ maxCode then [(low, maxCode)] else []
  | r :: rs =>
    if r.1 = 0 then gapsFrom (codeAfter r.2) rs
    else (low, codeBefore r.1) :: gapsFrom (codeAfter r.2) rs

/-- The characters of the first set that are not in the second. -/
def diff (a b : CharSet) : CharSet where
  ranges := commonRanges a.ranges ((gapsFrom 0 b.ranges).filter fun g => g.1 ≤ g.2)

/-- The characters of exactly one of two sets. -/
def symmDiff (a b : CharSet) : CharSet := (a.union b).diff (a.inter b)

/-- The characters that are not in a set.  Where two of its ranges meet at the surrogates, the
characters on either side of them count as a gap. -/
def compl (a : CharSet) : CharSet where
  ranges := (gapsFrom 0 a.ranges).map fun g => (min g.1 g.2, max g.1 g.2)

/-- The other members of the case classes whose code points lie in ranges; both lists ascend. -/
def caseVariantsIn : List (Nat × List Nat) → List (Nat × Nat) → List Nat
  | (n, others) :: classes, r :: rs =>
    if n < r.1 then caseVariantsIn classes (r :: rs)
    else if r.2 < n then caseVariantsIn ((n, others) :: classes) rs
    else others ++ caseVariantsIn classes (r :: rs)
  | _, _ => []
termination_by classes rs => classes.length + rs.length

/-- The characters that equal a member up to case. -/
def folded (a : CharSet) : CharSet :=
  let variants := caseVariantsIn Unicode.caseTable.toList a.ranges
  ofRanges (a.ranges ++ variants.map fun n => (n, n))

/-! ## Lemmas -/

/-- A range contains the characters between its ends. -/
theorem contains_range (low high c : Char) :
    (range low high).contains c = true ↔ low ≤ c ∧ c ≤ high := by
  simp only [contains, range, List.any_cons, List.any_nil, Bool.or_false, Bool.and_eq_true,
    decide_eq_true_eq]
  exact Iff.rfl

/-- A set contains exactly its one character. -/
theorem contains_single (c d : Char) : (single c).contains d = true ↔ d = c := by
  rw [single, contains_range]
  exact ⟨fun h => Char.le_antisymm h.2 h.1, fun h => h ▸ ⟨Char.le_refl _, Char.le_refl _⟩⟩

end CharSet

end RadarConform.Pattern
