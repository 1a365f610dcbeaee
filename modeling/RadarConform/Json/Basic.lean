import RadarConform.Number.Decimal

/-!
# JSON values

* `Json`: the values.  Numbers without fraction and exponent that fit in 64 bits are kept as
  integers, all others as double-precision numbers.
* `Json.merged`: a value whose records hold every key once: a repeated key keeps its first place
  and takes its last value.
-/

namespace RadarConform

/-- A JSON value.  The entries of a record keep the order in which they were written, and a key
may stand there more than once. -/
inductive Json where
  | null
  | bool (b : Bool)
  | integer (n : Int)
  | real (x : Number)
  | text (s : String)
  | list (items : List Json)
  | record (entries : List (String × Json))
deriving Inhabited

namespace Json

/-- The entries of a record with one more: a key that is already there keeps its place. -/
def insert (entries : List (String × Json)) (key : String) (value : Json) :
    List (String × Json) :=
  match entries with
  | [] => [(key, value)]
  | (k, v) :: rest => if k = key then (k, value) :: rest else (k, v) :: insert rest key value

mutual

/-- A value whose records hold every key once. -/
def merged : Json → Json
  | list items => .list (mergedItems items)
  | record entries => .record (mergedEntries [] entries)
  | v => v

/-- The items of a list, merged. -/
def mergedItems : List Json → List Json
  | [] => []
  | v :: rest => merged v :: mergedItems rest

/-- Entries added to those before them. -/
def mergedEntries (before : List (String × Json)) : List (String × Json) → List (String × Json)
  | [] => before
  | (k, v) :: rest => mergedEntries (insert before k (merged v)) rest

end

/-- The value under a key. -/
def get? (entries : List (String × Json)) (key : String) : Option Json :=
  (entries.find? (·.1 == key)).map (·.2)

/-- A whole number as a double-precision number. -/
def numberOfInt (n : Int) : Number := .ofSignedUnits (n * Number.unitsOfOne)

/-- The number, if the value is one. -/
def number? : Json → Option Number
  | integer n => some (numberOfInt n)
  | real x => some x
  | _ => none

end Json

end RadarConform
