/-!
# Double-precision numbers

Attribute values and thresholds are double-precision numbers.  The non-negative doubles, listed
from zero through the subnormal and normal numbers up to infinity, are numbered without gaps, and
that *rank* is what is stored: a `Number` is `nan`, or a sign and a rank.  The representation is
canonical, comparisons are comparisons of integers, and the exact value of a finite number is a
whole multiple of the smallest subnormal, so all arithmetic on it is exact integer arithmetic
followed by one rounding.

* `Number`: the type, with `Number.zero`, `Number.infinity`, `Number.neg` and `Number.abs`.
* `Number.key?`: the signed rank, which orders all numbers but `nan`.
* `Number.eq`, `Number.lt`, `Number.le`: the comparisons, all false on `nan`.
* `Number.units`: the magnitude of a finite number as a multiple of 2^-1074.
-/

namespace RadarConform

namespace Number

/-- The rank at which the exponent grows by one: there are 2^52 doubles to each exponent. -/
def binade : Nat := Nat.pow 2 52

/-- The rank of infinity; every smaller rank belongs to a finite number. -/
def infinityRank : Nat := 2047 * binade

end Number

/-- A double-precision number: not a number, or a sign and the rank of the magnitude. -/
inductive Number where
  | nan
  | signed (negative : Bool) (rank : Nat) (bounded : rank ≤ Number.infinityRank)
deriving DecidableEq

namespace Number

/-- The number of a sign and a rank; a rank above that of infinity counts as infinity. -/
def ofRank (negative : Bool) (rank : Nat) : Number :=
  .signed negative (min rank infinityRank) (Nat.min_le_right ..)

/-- Positive zero. -/
def zero : Number := .signed false 0 (Nat.zero_le _)

/-- The infinity of a sign. -/
def infinity (negative : Bool) : Number := .signed negative infinityRank (Nat.le_refl _)

instance : Inhabited Number := ⟨zero⟩

/-- The number with the opposite sign. -/
def neg : Number → Number
  | nan => nan
  | signed negative rank h => signed (!negative) rank h

/-- The number without its sign. -/
def abs : Number → Number
  | nan => nan
  | signed _ rank h => signed false rank h

/-- Whether a number is neither infinite nor `nan`. -/
def isFinite : Number → Bool
  | nan => false
  | signed _ rank _ => rank < infinityRank

/-! ## Order

The rank grows with the magnitude, so the signed rank orders the numbers; both zeros have the
signed rank 0 and compare equal. -/

/-- The signed rank, which orders all numbers but `nan`. -/
def key? : Number → Option Int
  | nan => none
  | signed negative rank _ => some (if negative then -(rank : Int) else rank)

/-- A comparison of signed ranks as one of numbers: false as soon as one side is `nan`. -/
def compareKeys (test : Int → Int → Bool) (x y : Number) : Bool :=
  match x.key?, y.key? with
  | some a, some b => test a b
  | _, _ => false

/-- Numeric equality: the two zeros are equal and `nan` equals nothing. -/
def eq (x y : Number) : Bool := compareKeys (fun a b => a == b) x y

/-- The strict order. -/
def lt (x y : Number) : Bool := compareKeys (fun a b => a < b) x y

/-- The weak order. -/
def le (x y : Number) : Bool := compareKeys (fun a b => a ≤ b) x y

/-- The smaller of two numbers, the first where neither is smaller. -/
def min (x y : Number) : Number := if y.lt x then y else x

/-- The larger of two numbers, the first where neither is larger. -/
def max (x y : Number) : Number := if x.lt y then y else x

/-! ## Exact magnitude -/

/-- The number one as a multiple of 2^-1074. -/
def unitsOfOne : Nat := Nat.pow 2 1074

/-- The magnitude of the finite number with a given rank, as a multiple of 2^-1074.  Ranks below
two binades are their own magnitude; above, each binade doubles the spacing. -/
def unitsOfRank (rank : Nat) : Nat :=
  if rank < binade then rank
  else (binade + rank % binade) * Nat.pow 2 (rank / binade - 1)

/-- The magnitude of a number as a multiple of 2^-1074. -/
def units : Number → Nat
  | nan => 0
  | signed _ rank _ => unitsOfRank rank

/-- Whether the sign is minus; `nan` has none. -/
def isNegative : Number → Bool
  | nan => false
  | signed negative _ _ => negative

/-- The exact value of a finite number as a whole multiple of 2^-1074. -/
def signedUnits (x : Number) : Int :=
  if x.isNegative then -(x.units : Int) else x.units

end Number

end RadarConform
