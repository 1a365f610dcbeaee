import RadarConform.Number.Decimal
import RadarConform.Text.Blank
import RadarConform.Text.Pieces
import RadarConform.Text.Quoted

/-!
# Attribute values

An attribute holds a text, a number or a sequence of numbers.

* `ValueKind`: the three kinds, with their names and the reader of the names used in tables.
* `AttributeValue`: the values.
-/

namespace RadarConform

/-- The kinds of attribute values. -/
inductive ValueKind where
  | text
  | number
  | numberSequence
deriving DecidableEq, Inhabited

namespace ValueKind

/-- The name of a kind. -/
def name : ValueKind → String
  | text => "text"
  | number => "number"
  | numberSequence => "number_sequence"

/-- The kind of a name, exactly as `name` gives it. -/
def ofName? : String → Option ValueKind
  | "text" => some .text
  | "number" => some .number
  | "number_sequence" => some .numberSequence
  | _ => none

/-- The words for texts in the type column of a table. -/
def textWords : List String := ["string", "text"]

/-- The words for numbers in the type column of a table. -/
def numberWords : List String := ["real", "double", "float", "integer", "int", "long", "number"]

/-- The words for sequences in the type column of a table. -/
def sequenceWords : List String :=
  ["sequence", "array", "real array", "simple array", "number_sequence"]

/-- A text in lower case and without white space around it, as the words of a table are compared;
only ASCII letters have two cases here. -/
def folded (s : String) : String := .ofList ((Text.trim s.toList).map Char.toLower)

/-- Reads the type column of a table; the error is the word that is not known. -/
def parse (input : String) : Except String ValueKind :=
  let word := folded input
  if textWords.contains word then .ok .text
  else if numberWords.contains word then .ok .number
  else if sequenceWords.contains word then .ok .numberSequence
  else .error word

/-- The message for a word that names no kind. -/
def unknownMessage (word : String) : String := "unknown value type: " ++ Text.quoted word

end ValueKind

/-- The value of an attribute. -/
inductive AttributeValue where
  | text (s : String)
  | number (x : Number)
  | sequence (xs : List Number)
deriving DecidableEq, Inhabited

namespace AttributeValue

/-- The kind of a value. -/
def kind : AttributeValue → ValueKind
  | text _ => .text
  | number _ => .number
  | sequence _ => .numberSequence

/-- The text, if the value is one. -/
def text? : AttributeValue → Option String
  | text s => some s
  | _ => none

/-- The number, if the value is one. -/
def number? : AttributeValue → Option Number
  | number x => some x
  | _ => none

/-- A value as it is shown: texts quoted, sequences in brackets. -/
def shown : AttributeValue → String
  | text s => Text.quoted s
  | number x => x.text
  | sequence xs => "[" ++ Text.joined ", " (xs.map Number.text) ++ "]"

end AttributeValue

end RadarConform
