import RadarConform.Pattern.CharSet
import RadarConform.Unicode.Age
import RadarConform.Unicode.Script
import RadarConform.Unicode.ScriptExtensions
import RadarConform.Unicode.Segmentation

/-!
# Named properties of characters

A pattern may name a set of characters by a property: a general category, a script or a binary
property, or one of a few other properties together with its value.  Names are matched loosely:
case, blanks, hyphens and underscores do not count, nor does a leading `is`.

* `looseName`: the form in which names are compared.
* `property?`: the set of a bare name.
* `propertyValue?`: the set of a name and a value.
-/

namespace RadarConform.Pattern

/-- The characters of a name that count, in lower case. -/
def looseChars (cs : List Char) : List Char :=
  (cs.filter (fun c => c.toNat < 128 && c != ' ' && c != '_' && c != '-')).map Char.toLower

/-- The form in which names are compared.  The name `isc` keeps its `is`, since it does not stand
for the category `c`. -/
def looseName (cs : List Char) : String :=
  match cs with
  | i :: s :: rest =>
    if i.toLower = 'i' ∧ s.toLower = 's' then
      let name := looseChars rest
      if name = ['c'] then "isc" else .ofList name
    else .ofList (looseChars cs)
  | _ => .ofList (looseChars cs)

/-- The set of a name in a list of tables. -/
def listed? (tables : List (List String × String)) (name : String) : Option CharSet :=
  (Unicode.RangeTable.find? tables name).map fun t => .ofTables [t]

/-- The set of a general category. -/
def generalCategory? (name : String) : Option CharSet :=
  if name = "any" then some .any
  else if name = "ascii" then some (.range (Char.ofNat 0) (Char.ofNat 127))
  else if name = "assigned" then (listed? Unicode.categories "cn").map .compl
  else (Unicode.category? name).map .ofTables

/-- The short names of three properties that stand for general categories when they are written
without a value. -/
def categoryNames : List String := ["cf", "sc", "lc"]

/-- The set of a bare name: a binary property, or else a general category or a script.  The name of
a property that is not binary stands for nothing without a value. -/
def property? (written : List Char) : Option CharSet :=
  let name := looseName written
  if categoryNames.contains name then generalCategory? name
  else
    match listed? Unicode.properties name with
    | some s => some s
    | none =>
      if Unicode.otherPropertyNames.contains name then none
      else generalCategory? name <|> listed? Unicode.scripts name

/-- The set of a property that has a value: a general category, a script, a script extension, an
age or a class of segmentation. -/
def propertyValue? (property value : List Char) : Option CharSet :=
  let name := looseName value
  match looseName property with
  | "gc" | "generalcategory" => generalCategory? name
  | "sc" | "script" => listed? Unicode.scripts name
  | "scx" | "scriptextensions" => listed? Unicode.scriptExtensions name
  | "age" => (Unicode.age? name).map .ofTables
  | "gcb" | "graphemeclusterbreak" => listed? Unicode.graphemeBreaks name
  | "wb" | "wordbreak" => listed? Unicode.wordBreaks name
  | "sb" | "sentencebreak" => listed? Unicode.sentenceBreaks name
  | _ => none

end RadarConform.Pattern
