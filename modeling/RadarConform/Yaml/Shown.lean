import RadarConform.Json.Writer
import RadarConform.Text.Pieces
import RadarConform.Text.Quoted
import RadarConform.Yaml.Basic

/-!
# YAML values in messages

A message shows a YAML value with the name of its kind, as in `String("a")` or `Number(1.5)`.  The
keys of a mapping that are texts, numbers or truth values stand without that name.

* `Yaml.shown`: a value in a message.
-/

namespace RadarConform.Yaml

/-- A real number, with a point or an exponent that has no plus, or as the word for an infinity or
for no number. -/
def realShown : Number → String
  | .nan => ".nan"
  | x =>
    if x.isFinite then Json.realWith [] x
    else if x.isNegative then "-.inf"
    else ".inf"

/-- A truth value. -/
def boolShown (b : Bool) : String := if b then "true" else "false"

mutual

/-- A value in a message. -/
def shown : Yaml → String
  | null => "Null"
  | bool b => "Bool(" ++ boolShown b ++ ")"
  | integer n => "Number(" ++ toString n ++ ")"
  | real x => "Number(" ++ realShown x ++ ")"
  | text s => "String(" ++ Text.quoted s ++ ")"
  | list items => "Sequence [" ++ Text.joined ", " (itemsShown items) ++ "]"
  | record entries => "Mapping \x7b" ++ Text.joined ", " (entriesShown entries) ++ "\x7d"
  | tagged tag v =>
    "TaggedValue \x7b tag: !" ++ tag ++ ", value: " ++ shown v ++ " \x7d"

/-- Values in a message. -/
def itemsShown : List Yaml → List String
  | [] => []
  | v :: rest => shown v :: itemsShown rest

/-- The entries of a mapping in a message. -/
def entriesShown : List (Yaml × Yaml) → List String
  | [] => []
  | (bool b, v) :: rest => (boolShown b ++ ": " ++ shown v) :: entriesShown rest
  | (integer n, v) :: rest => (toString n ++ ": " ++ shown v) :: entriesShown rest
  | (real x, v) :: rest => (realShown x ++ ": " ++ shown v) :: entriesShown rest
  | (text s, v) :: rest => (Text.quoted s ++ ": " ++ shown v) :: entriesShown rest
  | (k, v) :: rest => (shown k ++ ": " ++ shown v) :: entriesShown rest

end

end RadarConform.Yaml
