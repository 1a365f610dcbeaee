import RadarConform.Number.Basic

/-!
# Rounding to double precision

Every operation computes its exact result as a ratio of integers, in multiples of 2^-1074, and
rounds it once to the nearest number, ties to the even rank.  A result past the largest finite
number by half a step or more becomes infinity.

* `rankOfRatio`: the rank nearest to a ratio of natural numbers.
* `Number.add`, `Number.sub`, `Number.divCount`: the arithmetic that the checks need.
-/

namespace RadarConform.Number

/-- The natural number nearest to `num / den`, the even one of two equally near. -/
def roundHalfEven (num den : Nat) : Nat :=
  let q := num / den
  let r := num % den
  if 2 * r < den then q
  else if den < 2 * r then q + 1
  else q + q % 2

/-- How far the magnitude `num / den`, in multiples of 2^-1074, reaches above the binades in which
the spacing is one unit: there a number is a 53-bit integer times two to this power. -/
def excessBits (num den : Nat) : Nat := Nat.log2 (num / den) - 52

/-- The rank nearest to the magnitude `num / den`, in multiples of 2^-1074.  A mantissa that is
rounded up to the next power of two carries into the exponent by itself, because ranks run
through the binades without gaps. -/
def rankOfRatio (num den : Nat) : Nat :=
  let excess := excessBits num den
  excess * binade + roundHalfEven num (den * Nat.pow 2 excess)

/-- The number nearest to `± num / den`, in multiples of 2^-1074. -/
def ofRatio (negative : Bool) (num den : Nat) : Number := ofRank negative (rankOfRatio num den)

/-- The number nearest to a whole multiple of 2^-1074. -/
def ofSignedUnits (n : Int) : Number := ofRatio (n < 0) n.natAbs 1

/-- The sum of two numbers.  An exact sum of zero is positive, unless both numbers are negative
zeros; infinities of opposite signs have no sum. -/
def add (x y : Number) : Number :=
  match x, y with
  | nan, _ => nan
  | _, nan => nan
  | signed s r h, signed t u k =>
    if r = infinityRank then
      if u = infinityRank ∧ s ≠ t then nan else signed s r h
    else if u = infinityRank then signed t u k
    else if r = 0 ∧ u = 0 then signed (s && t) 0 (Nat.zero_le _)
    else ofSignedUnits ((signed s r h).signedUnits + (signed t u k).signedUnits)

/-- The difference of two numbers. -/
def sub (x y : Number) : Number := x.add y.neg

/-- A number divided by a positive count. -/
def divCount (x : Number) (count : Nat) : Number :=
  match x with
  | nan => nan
  | signed s r h =>
    if r = infinityRank then signed s r h
    else ofRatio s (unitsOfRank r) count

end RadarConform.Number
