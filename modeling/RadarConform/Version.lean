import RadarConform.Text.Blank
import RadarConform.Text.Pieces
import RadarConform.Text.Quoted

/-!
# Revisions of the standard

A revision of the information model has a major and a minor number.  Files spell it in several
ways (`2.1`, `V2_1`, `H5rad 2.1`, `ODIM_H5/V2_1`); what counts is the last word of the text.

* `Version`: the two numbers, each below 2^32.
* `Version.parse`: the reader of all spellings.
* `Version.text`, `Version.tag`: the forms `2.1` and `V2_1`.
-/

namespace RadarConform

/-- A revision of the standard. -/
structure Version where
  major : UInt32
  minor : UInt32
deriving DecidableEq, Inhabited

/-- A text that is no revision. -/
structure VersionError where
  input : String
deriving DecidableEq

/-- The message of an error. -/
def VersionError.message (e : VersionError) : String :=
  "invalid standard version " ++ Text.quoted e.input
    ++ ": expected forms like \"2.1\", \"V2_1\", \"H5rad 2.1\" or \"ODIM_H5/V2_1\""

namespace Version

/-- A numeral without the plus sign in front of it. -/
def dropPlus : List Char → List Char
  | '+' :: cs => cs
  | cs => cs

/-- A decimal numeral below 2^32: digits, after an optional plus sign. -/
def component? (cs : List Char) : Option UInt32 :=
  let ds := dropPlus cs
  let value := ds.foldl (fun n c => 10 * n + (c.toNat - 48)) 0
  if ds ≠ [] ∧ ds.all (fun c => '0' ≤ c && c ≤ '9') ∧ value < UInt32.size then
    some (.ofNat value)
  else none

/-- A word without the `V` or `v` in front of it. -/
def dropLetter : List Char → List Char
  | 'V' :: cs => cs
  | 'v' :: cs => cs
  | cs => cs

/-- The characters that end a word: slashes and white space. -/
def endsWord (c : Char) : Bool := c == '/' || Text.isBlank c

/-- The last word of a text, around which white space does not count. -/
def lastWord (cs : List Char) : List Char :=
  ((Text.pieces endsWord (Text.trim cs)).getLast?).getD []

/-- Reads a revision from the last word of a text: an optional letter `V`, two numbers, and a
point or an underscore between them. -/
def parse (input : String) : Except VersionError Version :=
  match Text.cutOnce (fun c => c == '.' || c == '_') (dropLetter (lastWord input.toList)) with
  | none => .error ⟨input⟩
  | some (major, minor) =>
    match component? major, component? minor with
    | some major, some minor => .ok { major, minor }
    | _, _ => .error ⟨input⟩

/-- The text form, as in `2.1`. -/
def text (v : Version) : String := toString v.major.toNat ++ "." ++ toString v.minor.toNat

/-- The form that stands in the names of tables, as in `V2_1`. -/
def tag (v : Version) : String := "V" ++ toString v.major.toNat ++ "_" ++ toString v.minor.toNat

/-- The order of revisions: by the major number, then by the minor one. -/
def le (v w : Version) : Bool := v.major < w.major || (v.major == w.major && v.minor ≤ w.minor)

end Version

end RadarConform
