import RadarConform.Json.Basic

/-!
# JSON tokens

A JSON text is first cut into tokens: marks of structure, words, numbers and strings, with blanks
between them.  A number that is too large and a string with a surrogate that has no partner are
well formed and stand for no value.

* `Json.Token`: the tokens.
* `Json.Token.scan`: the tokens of a text, or nothing when the text holds something else.
* `Json.Numeral`: a number as it is written, with its value in `Json.Numeral.value?`.
* `Json.Literal.parts?`: the inside of a string, with the text it stands for in
  `Json.Literal.text?`.
-/

namespace RadarConform.Json

/-- A token of a JSON text: a mark, a string with the text it stands for, or a word or number with
its value. -/
inductive Token where
  | openList
  | closeList
  | openRecord
  | closeRecord
  | comma
  | colon
  | string (text : Option String)
  | atom (value : Option Json)

/-! ## Numbers

A number without fraction and exponent is an integer when it fits in 64 bits, signed or not; minus
zero is the real number.  Every other number is read in two roundings: its leading digits, as many
as fit in 64 bits, and then those times or over the power of ten that remains.  A number that
leaves the finite range on the way is refused. -/

/-- A number as it is written: its sign, the digits before and after the point, and its exponent;
nothing when neither point nor exponent is written. -/
structure Numeral where
  negative : Bool
  whole : List Char
  places : Option (List Char × Int)

namespace Numeral

/-- The largest natural number of 64 bits. -/
def maxWord : Nat := UInt64.size - 1

/-- The value of a run of digits appended to a value, as far as it fits in 64 bits, and the number
of digits left out. -/
def leading (start : Nat) : List Char → Nat × Nat
  | [] => (start, 0)
  | c :: cs =>
    let next := 10 * start + (c.toNat - 48)
    if maxWord < next then (start, cs.length + 1) else leading next cs

/-- The finite number nearest to a power of ten. -/
def powerOfTen (e : Nat) : Number := Decimal.toNumber false { digits := 1, exponent := e }

/-- The product of two positive finite numbers. -/
def times (x y : Number) : Number := .ofRatio false (x.units * y.units) Number.unitsOfOne

/-- The quotient of two positive finite numbers. -/
def ratio (x y : Number) : Number := .ofRatio false (x.units * Number.unitsOfOne) y.units

/-- A number divided by 10^308 as often as needed until the remaining power of ten is at most 308;
`fuel` bounds the number of divisions, after which nothing but zero is left. -/
def divideDown : (fuel : Nat) → Number → (down : Nat) → Number
  | 0, x, _ => x
  | fuel + 1, x, down =>
    if down ≤ 308 then ratio x (powerOfTen down)
    else if x.eq .zero then x
    else divideDown fuel (ratio x (powerOfTen 308)) (down - 308)

/-- A magnitude times a power of ten, if the result is finite. -/
def scaled? (value : Nat) (exponent : Int) : Option Number :=
  let x := numberOfInt value
  if exponent < 0 then some (divideDown 4 x (-exponent).toNat)
  else if 308 < exponent then if value = 0 then some x else none
  else
    let y := times x (powerOfTen exponent.toNat)
    if y.isFinite then some y else none

/-- A number with a sign. -/
def signed (negative : Bool) (x : Number) : Number := if negative then x.neg else x

/-- The number made of digits before and after the point and an exponent. -/
def real? (negative : Bool) (whole fraction : List Char) (exponent : Int) : Option Json :=
  let (value, dropped) := leading 0 whole
  let (value, skipped) := leading value fraction
  let places := fraction.length - skipped
  (scaled? value (exponent + dropped - places)).map fun x => .real (signed negative x)

/-- The number made of digits alone. -/
def integer? (negative : Bool) (whole : List Char) : Option Json :=
  let value := Decimal.valueOf whole
  if maxWord < value then real? negative whole [] 0
  else if !negative then some (.integer value)
  else if value = 0 ∨ UInt64.size < 2 * value then some (.real (numberOfInt value).neg)
  else some (.integer (-value))

/-- The value of a numeral. -/
def value? (n : Numeral) : Option Json :=
  match n.places with
  | none => integer? n.negative n.whole
  | some (fraction, exponent) => real? n.negative n.whole fraction exponent

/-- Reads an optional minus, digits without a leading zero, an optional fraction of at least one
digit and an optional exponent. -/
def ofChars? (cs : List Char) : Option Numeral :=
  let (negative, cs) := match cs with
    | '-' :: rest => (true, rest)
    | _ => (false, cs)
  let whole := cs.takeWhile Decimal.isDigit
  let rest := cs.dropWhile Decimal.isDigit
  if whole = [] ∨ (whole.head? = some '0' ∧ whole ≠ ['0']) then none
  else
    match rest with
    | [] => some { negative, whole, places := none }
    | '.' :: more =>
      let fraction := more.takeWhile Decimal.isDigit
      if fraction = [] then none
      else do
        let e ← Decimal.exponentOf? (more.dropWhile Decimal.isDigit)
        return { negative, whole, places := some (fraction, e) }
    | _ => do
      let e ← Decimal.exponentOf? rest
      return { negative, whole, places := some ([], e) }

end Numeral

/-! ## Strings -/

namespace Literal

/-- The value of a hexadecimal digit in either case. -/
def hexDigit? (c : Char) : Option Nat :=
  if '0' ≤ c ∧ c ≤ '9' then some (c.toNat - 48)
  else if 'a' ≤ c ∧ c ≤ 'f' then some (c.toNat - 87)
  else if 'A' ≤ c ∧ c ≤ 'F' then some (c.toNat - 55)
  else none

/-- The value of four hexadecimal digits. -/
def hexWord? (a b c d : Char) : Option Nat := do
  let a ← hexDigit? a
  let b ← hexDigit? b
  let c ← hexDigit? c
  let d ← hexDigit? d
  return ((a * 16 + b) * 16 + c) * 16 + d

/-- A part of a string: a character, or a 16-bit unit given by its number. -/
inductive Part where
  | char (c : Char)
  | unit (n : Nat)

/-- The character of a short escape. -/
def shortEscape? : Char → Option Char
  | '"' => some '"'
  | '\\' => some '\\'
  | '/' => some '/'
  | 'b' => some '\x08'
  | 'f' => some '\x0c'
  | 'n' => some '\n'
  | 'r' => some '\r'
  | 't' => some '\t'
  | _ => none

/-- The parts of the inside of a string; controls must be escaped. -/
def parts? : List Char → Option (List Part)
  | [] => some []
  | '\\' :: 'u' :: a :: b :: c :: d :: rest => do
    let n ← hexWord? a b c d
    return .unit n :: (← parts? rest)
  | '\\' :: c :: rest => do
    let e ← shortEscape? c
    return .char e :: (← parts? rest)
  | c :: rest => do
    if c.toNat < 0x20 ∨ c = '\\' then none
    else return .char c :: (← parts? rest)

/-- The characters that parts stand for: a unit of the upper surrogates must be followed by one
of the lower, and makes one character with it. -/
def characters? : List Part → Option (List Char)
  | [] => some []
  | .char c :: rest => (characters? rest).map (c :: ·)
  | .unit n :: rest =>
    if n < 0xD800 ∨ 0xDFFF < n then (characters? rest).map (Char.ofNat n :: ·)
    else
      match rest with
      | .unit m :: rest =>
        if n < 0xDC00 ∧ 0xDC00 ≤ m ∧ m ≤ 0xDFFF then
          (characters? rest).map
            (Char.ofNat (0x10000 + (n - 0xD800) * 0x400 + (m - 0xDC00)) :: ·)
        else none
      | _ => none

/-- The text that parts stand for. -/
def text? (parts : List Part) : Option String := (characters? parts).map .ofList

end Literal

namespace Token

/-- The inside of a string and what follows its closing quote. -/
def takeString : List Char → Option (List Char × List Char)
  | [] => none
  | '"' :: rest => some ([], rest)
  | '\\' :: c :: rest => (takeString rest).map fun (body, after) => ('\\' :: c :: body, after)
  | c :: rest => (takeString rest).map fun (body, after) => (c :: body, after)

/-- What follows a string is no longer than the text it was taken from. -/
theorem length_of_takeString {cs body after : List Char}
    (h : takeString cs = some (body, after)) : after.length ≤ cs.length := by
  fun_induction takeString cs generalizing body with
  | case1 => cases h
  | case2 rest => simp_all
  | case3 c rest ih =>
    simp only [Option.map_eq_some_iff, Prod.mk.injEq, Prod.exists] at h
    obtain ⟨b, a, hb, rfl, rfl⟩ := h
    have := ih hb
    simp only [List.length_cons]
    omega
  | case4 c rest _ _ ih =>
    simp only [Option.map_eq_some_iff, Prod.mk.injEq, Prod.exists] at h
    obtain ⟨b, a, hb, rfl, rfl⟩ := h
    have := ih hb
    simp only [List.length_cons]
    omega

/-- The characters that number tokens are made of. -/
def isNumeric (c : Char) : Bool :=
  Decimal.isDigit c || c == '-' || c == '+' || c == '.' || c == 'e' || c == 'E'

/-- An ASCII letter. -/
def isLetter (c : Char) : Bool := ('a' ≤ c && c ≤ 'z') || ('A' ≤ c && c ≤ 'Z')

/-- The value of a word. -/
def word? (cs : List Char) : Option Json :=
  match String.ofList cs with
  | "null" => some .null
  | "true" => some (.bool true)
  | "false" => some (.bool false)
  | _ => none

/-- The token that stands for a single character. -/
def mark? : Char → Option Token
  | '[' => some .openList
  | ']' => some .closeList
  | '{' => some .openRecord
  | '}' => some .closeRecord
  | ',' => some .comma
  | ':' => some .colon
  | _ => none

/-- The blanks between tokens. -/
def isBlank (c : Char) : Bool := c == ' ' || c == '\t' || c == '\n' || c == '\r'

theorem length_dropWhile_le (p : Char → Bool) (cs : List Char) :
    (cs.dropWhile p).length ≤ cs.length := by
  induction cs with
  | nil => simp
  | cons c cs ih =>
    simp only [List.dropWhile_cons]
    split
    · simp only [List.length_cons]; omega
    · simp

/-- The tokens of a text, in order; nothing when a part of it is no token. -/
def scan (cs : List Char) : Option (List Token) :=
  match cs with
  | [] => some []
  | c :: rest =>
    if isBlank c then scan rest
    else
      match mark? c with
      | some token => (scan rest).map (token :: ·)
      | none =>
        if c = '"' then
          match _string : takeString rest with
          | none => none
          | some (body, after) => do
            let parts ← Literal.parts? body
            return .string (Literal.text? parts) :: (← scan after)
        else if isLetter c then do
          let value ← word? (c :: rest.takeWhile isLetter)
          return .atom (some value) :: (← scan (rest.dropWhile isLetter))
        else do
          let numeral ← Numeral.ofChars? (c :: rest.takeWhile isNumeric)
          return .atom numeral.value? :: (← scan (rest.dropWhile isNumeric))
termination_by cs.length
decreasing_by
  · simp
  · simp
  · have := length_of_takeString _string
    simp only [List.length_cons]
    omega
  · have := length_dropWhile_le isLetter rest
    simp only [List.length_cons]
    omega
  · have := length_dropWhile_le isNumeric rest
    simp only [List.length_cons]
    omega

/-- The greatest number of lists and records that are open at a time in what remains, when some are
open and `deepest` have been so before. -/
def depthFrom (opened deepest : Nat) : List Token → Nat
  | [] => deepest
  | .openList :: rest | .openRecord :: rest =>
    depthFrom (opened + 1) (max deepest (opened + 1)) rest
  | .closeList :: rest | .closeRecord :: rest => depthFrom (opened - 1) deepest rest
  | _ :: rest => depthFrom opened deepest rest

/-- The greatest number of lists and records that are open at a time. -/
def depth (tokens : List Token) : Nat := depthFrom 0 0 tokens

end Token

end RadarConform.Json
