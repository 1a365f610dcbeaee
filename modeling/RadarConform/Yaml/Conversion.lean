import RadarConform.Json.Basic
import RadarConform.Yaml.Shown

/-!
# YAML values as JSON values

JSON has texts as keys only and no infinities; apart from that, every YAML value has a JSON form.
Tags do not show in it.

* `Yaml.ConversionFault`: what has no JSON form.
* `Yaml.toJson`: the JSON form of a value.
-/

namespace RadarConform.Yaml

/-- What has no JSON form. -/
inductive ConversionFault where
  | real (x : Number)
  | key (k : Yaml)

/-- What a fault says. -/
def ConversionFault.message : ConversionFault → String
  | .real x => "cannot represent float " ++ x.text
  | .key k => "unsupported YAML key: " ++ k.shown

mutual

/-- The JSON form of a value; what comes first in the text is found first. -/
def toJson : Yaml → Except ConversionFault Json
  | null => .ok .null
  | bool b => .ok (.bool b)
  | integer n => .ok (.integer n)
  | real x => if x.isFinite then .ok (.real x) else .error (.real x)
  | text s => .ok (.text s)
  | list items => (itemsToJson items).map .list
  | record entries => (entriesToJson entries).map .record
  | tagged _ v => toJson v

/-- The JSON forms of values. -/
def itemsToJson : List Yaml → Except ConversionFault (List Json)
  | [] => .ok []
  | v :: rest => do
    let first ← toJson v
    return first :: (← itemsToJson rest)

/-- The JSON forms of the entries of a mapping. -/
def entriesToJson : List (Yaml × Yaml) → Except ConversionFault (List (String × Json))
  | [] => .ok []
  | (text k, v) :: rest => do
    let first ← toJson v
    return (k, first) :: (← entriesToJson rest)
  | (k, _) :: _ => .error (.key k)

end

end RadarConform.Yaml
