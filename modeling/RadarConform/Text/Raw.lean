/-!
# Texts as the system hands them over

The words of a command line and the paths of files are bytes.  Most of them are the code of a text;
bytes that are the code of no character are kept as they are.  A text with such bytes can be passed
on and compared, but not written where only characters may stand.

* `RawUnit`: a character, or bytes that are the code of none.
* `RawText`: a text with such bytes in it, with `RawText.ofText` for those that have none.
* `RawText.toText?`: the text, if there are no such bytes.
* `RawText.shown`: the text with a mark in the place of such bytes.
-/

namespace RadarConform

/-- A character, or a run of bytes that is the code of none. -/
inductive RawUnit where
  | char (c : Char)
  | stray (bytes : List UInt8)
deriving DecidableEq

namespace RawUnit

/-- The character, if it is one. -/
def char? : RawUnit → Option Char
  | char c => some c
  | stray _ => none

/-- The characters of a text, if all are characters. -/
def chars? (units : List RawUnit) : Option (List Char) := units.mapM char?

/-- What is shown: the character, or the replacement character. -/
def shown : RawUnit → Char
  | char c => c
  | stray _ => '\uFFFD'

end RawUnit

/-- A text in which bytes may stand that are the code of no character. -/
@[ext] structure RawText where
  units : List RawUnit
deriving DecidableEq

namespace RawText

/-- A text of characters. -/
def ofText (s : String) : RawText := { units := s.toList.map .char }

instance : Coe String RawText := ⟨ofText⟩

instance : Append RawText := ⟨fun a b => { units := a.units ++ b.units }⟩

/-- The text, if all of it are characters. -/
def toText? (t : RawText) : Option String := (RawUnit.chars? t.units).map .ofList

/-- What is shown for a text: one replacement character for each run of bytes that is no
character. -/
def shown (t : RawText) : String := .ofList (t.units.map RawUnit.shown)

/-! ## Texts of characters -/

@[simp] theorem units_append (a b : RawText) : (a ++ b).units = a.units ++ b.units := rfl

theorem units_ofText (s : String) : (ofText s).units = s.toList.map .char := rfl

end RawText

end RadarConform
