import RadarConform.Pattern.CharSet

/-!
# Sets of characters as sequences of bytes

An automaton reads the bytes of UTF-8 and not characters.  A range of characters falls into
sequences of byte ranges: those of the characters with one byte, two bytes and so on, and among
these into blocks in which every byte runs through a range of its own.

* `ByteRange`: a range of bytes.
* `CharSet.byteSequences`: the sequences of a set, in ascending order.
-/

namespace RadarConform.Pattern

/-- A range of bytes, both ends included. -/
structure ByteRange where
  low : UInt8
  high : UInt8
deriving DecidableEq

namespace ByteRange

/-- The range of all bytes that continue a character. -/
def continuation : ByteRange := { low := 0x80, high := 0xBF }

/-- The range of bytes from one number to another above a base. -/
def above (base low high : Nat) : ByteRange :=
  { low := .ofNat (base + low), high := .ofNat (base + high) }

end ByteRange

/-- The sequences of byte ranges for the numbers from `low` to `high`, which are written in digits
of 6 bits: a first digit, to which `base` is added, and some digits after it. -/
def blocks (base : Nat) : (digits : Nat) → (low high : Nat) → List (List ByteRange)
  | 0, low, high => [[.above base low high]]
  | digits + 1, low, high =>
    let unit := Nat.pow 64 (digits + 1)
    let first := low / unit
    let last := high / unit
    let under (digit low high : Nat) : List (List ByteRange) :=
      (blocks 0x80 digits low high).map (.above base digit digit :: ·)
    if first = last then under first (low % unit) (high % unit)
    else
      let fromStart := low % unit = 0
      let toEnd := high % unit = unit - 1
      let before := if fromStart then [] else under first (low % unit) (unit - 1)
      let after := if toEnd then [] else under last 0 (high % unit)
      let a := if fromStart then first else first + 1
      let b := if toEnd then last + 1 else last
      let between := if a < b then
        [.above base a (b - 1) :: List.replicate (digits + 1) .continuation] else []
      before ++ between ++ after

/-- The ranges of code points in which characters have equally many bytes, with the first of these
bytes apart from the bits of the code point, and the number of the other bytes. -/
def byteLengths : List ((Nat × Nat) × Nat × Nat) :=
  [((0, 0x7F), 0, 0), ((0x80, 0x7FF), 0xC0, 1), ((0x800, 0xD7FF), 0xE0, 2),
    ((0xE000, 0xFFFF), 0xE0, 2), ((0x10000, 0x10FFFF), 0xF0, 3)]

/-- The sequences of a range of code points. -/
def byteSequencesOf (r : Nat × Nat) : List (List ByteRange) :=
  byteLengths.flatMap fun (part, base, digits) =>
    let low := max r.1 part.1
    let high := min r.2 part.2
    if low ≤ high then blocks base digits low high else []

/-- The sequences of a set. -/
def CharSet.byteSequences (s : CharSet) : List (List ByteRange) :=
  s.ranges.flatMap byteSequencesOf

end RadarConform.Pattern
