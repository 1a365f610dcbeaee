import RadarConform.Number.Rounding

/-!
# Decimal notation of numbers

Reading and writing are both exact: a decimal is a natural number and a power of ten, its value is
a ratio of integers, and `Number.ofRatio` rounds it once.  Writing searches for the fewest digits
that read back.

* `Decimal`: digits and a power of ten, with `Decimal.toNumber` and the reader `Decimal.ofText?`.
* `Number.ofText?`: decimals, infinities and `nan`, with an optional sign.
* `Number.shortest`: the fewest digits that read back, and of those the nearest.
* `Number.text`: positional notation, without an exponent, as it stands in every message.
-/

namespace RadarConform

/-- An unsigned decimal: the natural number `digits` times ten to the power `exponent`. -/
structure Decimal where
  digits : Nat
  exponent : Int
deriving DecidableEq, Repr

namespace Decimal

/-- The number of decimal digits of a natural number. -/
def length (n : Nat) : Nat := (Nat.toDigits 10 n).length

/-! ## Value

A decimal with more than 310 digits before the point is above every finite number, and one with
more than 330 zeros after the point is below half the smallest, so the ratio is only formed
between those bounds and its size stays small whatever the exponent says. -/

/-- The rank of the number nearest to a decimal. -/
def rank (d : Decimal) : Nat :=
  let size := (length d.digits : Int) + d.exponent
  if d.digits = 0 then 0
  else if 310 < size then Number.infinityRank
  else if size < -330 then 0
  else if 0 ≤ d.exponent then
    Number.rankOfRatio (d.digits * Nat.pow 10 d.exponent.toNat * Number.unitsOfOne) 1
  else
    Number.rankOfRatio (d.digits * Number.unitsOfOne) (Nat.pow 10 (-d.exponent).toNat)

/-- The number nearest to a decimal with a sign. -/
def toNumber (negative : Bool) (d : Decimal) : Number := .ofRank negative d.rank

/-! ## Reading -/

/-- An ASCII digit. -/
def isDigit (c : Char) : Bool := '0' ≤ c && c ≤ '9'

/-- The value of a run of digits. -/
def valueOf (ds : List Char) : Nat := ds.foldl (fun n c => 10 * n + (c.toNat - 48)) 0

/-- An optional sign and what follows it. -/
def takeSign : List Char → Bool × List Char
  | '-' :: cs => (true, cs)
  | '+' :: cs => (false, cs)
  | cs => (false, cs)

/-- The exponent part: nothing, or `e` or `E` with an optional sign and at least one digit. -/
def exponentOf? : List Char → Option Int
  | [] => some 0
  | c :: cs =>
    if c = 'e' ∨ c = 'E' then
      let (negative, ds) := takeSign cs
      if ds ≠ [] ∧ ds.all isDigit then
        some (if negative then -(valueOf ds : Int) else valueOf ds)
      else none
    else none

/-- The fraction part and what follows it: the digits after a point, or nothing. -/
def takeFraction : List Char → List Char × List Char
  | '.' :: cs => (cs.takeWhile isDigit, cs.dropWhile isDigit)
  | cs => ([], cs)

/-- An unsigned decimal: digits with at most one point among or around them, at least one digit,
and an optional exponent. -/
def ofText? (cs : List Char) : Option Decimal :=
  let whole := cs.takeWhile isDigit
  let (fraction, rest) := takeFraction (cs.dropWhile isDigit)
  if whole = [] ∧ fraction = [] then none
  else
    (exponentOf? rest).map fun e =>
      { digits := valueOf (whole ++ fraction), exponent := e - fraction.length }

/-! ## Writing -/

/-- A decimal without trailing zeros in its digits. -/
def stripZeros (fuel : Nat) (d : Decimal) : Decimal :=
  match fuel with
  | 0 => d
  | fuel + 1 =>
    if d.digits ≠ 0 ∧ d.digits % 10 = 0 then
      stripZeros fuel { digits := d.digits / 10, exponent := d.exponent + 1 }
    else d

/-- The digits of a decimal, most significant first. -/
def digitChars (d : Decimal) : List Char := Nat.toDigits 10 d.digits

/-- Positional notation: the digits with a point where the exponent puts it, zeros filling the
places between, and no point after a whole number. -/
def positional (d : Decimal) : List Char :=
  let ds := d.digitChars
  if 0 ≤ d.exponent then ds ++ List.replicate d.exponent.toNat '0'
  else
    let places := (-d.exponent).toNat
    if places < ds.length then
      ds.take (ds.length - places) ++ '.' :: ds.drop (ds.length - places)
    else '0' :: '.' :: (List.replicate (places - ds.length) '0' ++ ds)

end Decimal

namespace Number

/-- A word of ASCII letters in lower case. -/
def lowerWord (cs : List Char) : List Char := cs.map Char.toLower

/-- A number as users write it: an optional sign, then a decimal, `inf`, `infinity` or `nan` in
any case. -/
def ofText? (cs : List Char) : Option Number :=
  let (negative, rest) := Decimal.takeSign cs
  let word := lowerWord rest
  if word = ['i', 'n', 'f'] ∨ word = ['i', 'n', 'f', 'i', 'n', 'i', 't', 'y'] then
    some (infinity negative)
  else if word = ['n', 'a', 'n'] then some nan
  else (Decimal.ofText? rest).map (·.toNumber negative)

/-! ## The fewest digits that read back

A finite magnitude is a natural number times a power of two, so it is itself a decimal, `exact`.
For one, two, … seventeen digits the candidates are the leading digits of that decimal and their
successor; the first candidate whose rank is the wanted one is taken.  The exact decimal stands at
the end of the list, so the search always ends with digits that read back. -/

/-- The magnitude of a rank as a decimal. -/
def exact (rank : Nat) : Decimal :=
  let mantissa := if rank < binade then rank else binade + rank % binade
  let shift := rank / binade - 1
  if 1074 ≤ shift then { digits := mantissa * Nat.pow 2 (shift - 1074), exponent := 0 }
  else { digits := mantissa * Nat.pow 5 (1074 - shift), exponent := (shift : Int) - 1074 }

/-- The two decimals next to another one that have `dropped` digits less, the nearer one first;
`tieUp` says of the lower one's digits whether a tie goes to the upper. -/
def neighbours (tieUp : Nat → Bool) (whole : Decimal) (dropped : Nat) : List Decimal :=
  let power := Nat.pow 10 dropped
  let low := whole.digits / power
  let rest := whole.digits % power
  let exponent := whole.exponent + dropped
  let lower : Decimal := { digits := low, exponent }
  let upper : Decimal := { digits := low + 1, exponent }
  if rest = 0 then [lower]
  else if 2 * rest < power then [lower, upper]
  else if power < 2 * rest then [upper, lower]
  else if tieUp low then [upper, lower]
  else [lower, upper]

/-- The first decimal with a rank among those with `count` digits and more, in the neighbourhood
of another one; `tries` bounds the numbers of digits that are tried. -/
def search (tieUp : Nat → Bool) (rank : Nat) (whole : Decimal) (length : Nat) :
    (tries count : Nat) → Option Decimal
  | 0, _ => none
  | tries + 1, count =>
    match (neighbours tieUp whole (length - count)).find? (·.rank == rank) with
    | some d => some d
    | none => search tieUp rank whole length tries (count + 1)

/-- The fewest digits that read back as the rank, of those the nearest. -/
def shortest (tieUp : Nat → Bool) (rank : Nat) : Decimal :=
  let whole := exact rank
  if rank = 0 then { digits := 0, exponent := 0 }
  else
    match search tieUp rank whole (Decimal.length whole.digits) 17 1 with
    | some d => d.stripZeros 20
    | none => whole

/-- The text of a number in messages: the fewest digits that read back, written positionally
without an exponent and without a fraction part for whole numbers; a tie between two decimals
goes to the upper. -/
def text : Number → String
  | nan => "NaN"
  | signed negative rank _ =>
    let magnitude :=
      if rank = infinityRank then ['i', 'n', 'f']
      else (shortest (fun _ => true) rank).positional
    .ofList (if negative then '-' :: magnitude else magnitude)

end Number

end RadarConform
