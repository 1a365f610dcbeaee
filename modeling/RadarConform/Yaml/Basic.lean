import RadarConform.Number.Decimal
import RadarConform.Yaml.Document

/-!
# YAML values

What a scalar stands for follows from its text when it is plain, and from its tag when it has one of
the core tags.  Any other scalar is a text.  A tag that starts with an exclamation mark stays with
the value.

* `Yaml`: the values.
* `Yaml.ofPlain?`: the value of a plain scalar.
* `Yaml.ofTree?`: the value of a tree.
* `Yaml.parse`: the value of a text.
-/

namespace RadarConform

/-- A YAML value. -/
inductive Yaml where
  | null
  | bool (b : Bool)
  | integer (n : Int)
  | real (x : Number)
  | text (s : String)
  | list (items : List Yaml)
  | record (entries : List (Yaml × Yaml))
  | tagged (tag : String) (value : Yaml)
deriving Inhabited

namespace Yaml

/-! ## Equality -/

mutual

/-- Equality of values.  Whole numbers differ from others, zeros are equal, and so are records with
the same entries in any order. -/
def same : Yaml → Yaml → Bool
  | null, null => true
  | bool a, bool b => a == b
  | integer n, integer m => n == m
  | real x, real y => x.eq y || (x == .nan && y == .nan)
  | text s, text t => s == t
  | list xs, list ys => sameItems xs ys
  | record xs, record ys => xs.length == ys.length && entriesIn xs ys
  | tagged s x, tagged t y => s == t && same x y
  | _, _ => false

/-- Equality of lists of values. -/
def sameItems : List Yaml → List Yaml → Bool
  | [], [] => true
  | x :: xs, y :: ys => same x y && sameItems xs ys
  | _, _ => false

/-- Whether all entries are among others. -/
def entriesIn : List (Yaml × Yaml) → List (Yaml × Yaml) → Bool
  | [], _ => true
  | (k, v) :: rest, ys => ys.any (fun e => same k e.1 && same v e.2) && entriesIn rest ys

end

/-! ## Plain scalars -/

/-- The plain scalars that stand for nothing. -/
def nullWords : List String := ["null", "Null", "NULL", "~"]

/-- The truth value of a word. -/
def truth? : String → Option Bool
  | "true" | "True" | "TRUE" => some true
  | "false" | "False" | "FALSE" => some false
  | _ => none

/-- The value of a digit in a base up to 16. -/
def digit? (base : Nat) (c : Char) : Option Nat := do
  let d ← hexDigit? c
  if d < base then some d else none

/-- The value of one or more digits in a base. -/
def digits? (base : Nat) (cs : List Char) : Option Nat :=
  if cs = [] then none
  else cs.foldlM (fun n c => (digit? base c).map (base * n + ·)) 0

/-- Whether a text is a numeral with needless zeros at its start, which is no number. -/
def hasLeadingZero (cs : List Char) : Bool :=
  match (Decimal.takeSign cs).2 with
  | '0' :: c :: cs => (c :: cs).all Decimal.isDigit
  | _ => false

/-- The size of a numeral: in base 16, 8 or 2 after `0x`, `0o` or `0b`, otherwise in base 10. -/
def magnitude? : List Char → Option Nat
  | '0' :: 'x' :: cs => digits? 16 cs
  | '0' :: 'o' :: cs => digits? 8 cs
  | '0' :: 'b' :: cs => digits? 2 cs
  | cs => digits? 10 cs

/-- The whole number that a text stands for: a sign, which may be missing, and a numeral. -/
def integer? (cs : List Char) : Option Int :=
  if hasLeadingZero cs then none
  else
    let (negative, cs) := Decimal.takeSign cs
    (magnitude? cs).map fun n => if negative then -n else n

/-- Whether a whole number is one of the values, which go from -2^63 to 2^64 - 1. -/
def isWord (n : Int) : Bool := -(Nat.pow 2 63 : Int) ≤ n && n < Nat.pow 2 64

/-- Whether a whole number is too large for the values but still recognized as one. -/
def isLongWord (n : Int) : Bool := -(Nat.pow 2 127 : Int) ≤ n && n < Nat.pow 2 128

/-- The text after a plus sign. -/
def dropPlus : List Char → List Char
  | '+' :: cs => cs
  | cs => cs

/-- The number that is no whole number which a text stands for: a decimal that does not round to
infinity, or one of the words for infinities and for no number. -/
def real? (s : String) : Option Number :=
  let cs := s.toList
  let unsigned := dropPlus cs
  if unsigned ≠ cs ∧ (unsigned.head? = some '+' ∨ unsigned.head? = some '-') then none
  else if [".inf", ".Inf", ".INF"].contains (String.ofList unsigned) then some (.infinity false)
  else if ["-.inf", "-.Inf", "-.INF"].contains s then some (.infinity true)
  else if [".nan", ".NaN", ".NAN"].contains s then some .nan
  else (Number.ofText? unsigned).filter (·.isFinite)

/-- The value of a plain scalar.  A whole number that is too large is an error. -/
def ofPlain? (s : String) : Option Yaml :=
  let cs := s.toList
  if s = "" ∨ nullWords.contains s then some .null
  else
    match truth? s, integer? cs with
    | some b, _ => some (.bool b)
    | none, some n =>
      if isWord n then some (.integer n)
      else if isLongWord n then none
      else some ((real? s).elim (.text s) .real)
    | none, none =>
      if hasLeadingZero cs then some (.text s) else some ((real? s).elim (.text s) .real)

/-! ## Scalars and tags -/

/-- The value of a scalar without tag. -/
def ofScalar? (style : ScalarStyle) (s : String) : Option Yaml :=
  if style = .plain then ofPlain? s else some (.text s)

/-- The value of a scalar, apart from a tag that stays with it. -/
def ofTagged? (style : ScalarStyle) (s : String) : Option Tag → Option Yaml
  | none | some (.own _) | some .illegible => ofScalar? style s
  | some .truth => (truth? s).map .bool
  | some .integer => do
    let n ← integer? s.toList
    if isWord n then some (.integer n) else none
  | some .real => (real? s).map .real
  | some .null => if nullWords.contains s then some .null else none
  | some .foreign => some (.text s)

/-- A value with a tag, if that stays with it. -/
def withTag (v : Yaml) : Option Tag → Yaml
  | some (.own name) => .tagged name v
  | _ => v

/-! ## Trees -/

/-- Entries without a key that comes twice. -/
def distinct? : List (Yaml × Yaml) → Option (List (Yaml × Yaml))
  | [] => some []
  | (k, v) :: rest =>
    if rest.any (same k ·.1) then none else (distinct? rest).map ((k, v) :: ·)

mutual

/-- The value of a tree.  The keys of a mapping must differ. -/
def ofTree? : Tree → Option Yaml
  | .scalar tag style s => (ofTagged? style s tag).map (withTag · tag)
  | .sequence tag items => (ofTrees? items).map fun vs => withTag (.list vs) tag
  | .mapping tag entries => do
    let entries ← ofEntries? entries
    return withTag (.record (← distinct? entries)) tag

/-- The values of trees. -/
def ofTrees? : List Tree → Option (List Yaml)
  | [] => some []
  | t :: rest => do
    let v ← ofTree? t
    return v :: (← ofTrees? rest)

/-- The values of the entries of a mapping. -/
def ofEntries? : List (Tree × Tree) → Option (List (Yaml × Yaml))
  | [] => some []
  | (k, v) :: rest => do
    let key ← ofTree? k
    let value ← ofTree? v
    return (key, value) :: (← ofEntries? rest)

end

/-- The value of a text; a text without a document stands for nothing. -/
def parse (text : String) : Option Yaml := do
  match ← Document.read text with
  | none => return .null
  | some tree => ofTree? tree

end Yaml

end RadarConform
