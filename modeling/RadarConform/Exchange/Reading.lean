import RadarConform.Comparison.Report
import RadarConform.Json.Reader
import RadarConform.Layout

/-!
# Reading the JSON form of loaded data

A rule, node, layout or table is read from the outline of a record or of a list that gives its parts
in their order.  Keys that are not known are passed over with all that stands under them, be it
without value or deep, a known key may stand only once, and parts with a default may be missing: in
a list, only at its end.

* `parts?`: the parts of a record or list under the names of a type.
* `Rule.ofOutline?`, `RuleTable.ofOutline?`, `Node.ofOutline?`, `Layout.ofOutline?`,
  `CompareOptions.ofOutline?`.
-/

namespace RadarConform

/-! ## Parts -/

open Json (Outline)

/-- The entries of a record under one key. -/
def entriesUnder (entries : List (String × Outline)) (key : String) : List Outline :=
  (entries.filter (·.1 == key)).map (·.2)

/-- The parts of a record or list under the names given, in their order: nothing for a part that is
missing.  It fails when a key of the record is no text, when a name stands twice in it, and when a
list has too many items. -/
def parts? (names : List String) : Outline → Option (List (Option Outline))
  | .record entries => do
    let entries ← entries.mapM fun e => e.1.map (·, e.2)
    names.mapM fun name =>
      match entriesUnder entries name with
      | [] => some none
      | [o] => some (some o)
      | _ => none
  | .list items =>
    if names.length < items.length then none
    else some (items.map some ++ List.replicate (names.length - items.length) none)
  | .atom _ => none

/-- A part that must be there. -/
def required {α : Type} (read : Outline → Option α) : Option Outline → Option α
  | some o => read o
  | none => none

/-- A part with a default. -/
def orDefault {α : Type} (default : α) (read : Outline → Option α) : Option Outline → Option α
  | some o => read o
  | none => some default

/-- A part that may be missing or null. -/
def optional {α : Type} (read : Outline → Option α) : Option Outline → Option (Option α)
  | none => some none
  | some (.atom (some .null)) => some none
  | some o => (read o).map some

namespace Json

/-- The text, if the value is one. -/
def text? : Json → Option String
  | text s => some s
  | _ => none

/-- The truth value, if the value is one. -/
def bool? : Json → Option Bool
  | bool b => some b
  | _ => none

namespace Outline

/-- What a literal stands for, as it is read. -/
def atom? {α : Type} (read : Json → Option α) : Outline → Option α
  | atom (some v) => read v
  | _ => none

/-- The text, if there is one. -/
def text? : Outline → Option String := atom? Json.text?

/-- The truth value, if there is one. -/
def bool? : Outline → Option Bool := atom? Json.bool?

/-- The number, if there is one. -/
def number? : Outline → Option Number := atom? Json.number?

/-- The items, if there is a list and all of them can be read. -/
def listOf? {α : Type} (read : Outline → Option α) : Outline → Option (List α)
  | list items => items.mapM read
  | _ => none

end Outline

end Json

/-! ## Types -/

/-- Reads a location from its text. -/
def Location.ofOutline? (o : Outline) : Option Location := do
  (Location.parse (← o.text?)).toOption

/-- Reads a revision from its text. -/
def Version.ofOutline? (o : Outline) : Option Version := do
  (Version.parse (← o.text?)).toOption

/-- Reads a kind from its name; a record with the name as its only key and null under it stands for
the name. -/
def ValueKind.ofOutline? : Outline → Option ValueKind
  | .atom (some (.text s)) => ofName? s
  | .record [(some key, .atom (some .null))] => ofName? key
  | _ => none

/-- Reads a value: a string, a number or a list of numbers. -/
def AttributeValue.ofOutline? : Outline → Option AttributeValue
  | .atom (some (.text s)) => some (.text s)
  | .list items => (items.mapM Outline.number?).map .sequence
  | o => o.number?.map .number

/-- Reads a rule. -/
def Rule.ofOutline? (o : Outline) : Option Rule := do
  match ← parts?
    ["location", "mandatory", "constraint_text", "standard_version", "expected_kind",
      "description"] o with
  | [location, mandatory, constraint, version, kind, description] =>
    return {
      location := ← required Location.ofOutline? location,
      mandatory := ← required Outline.bool? mandatory,
      constraint := ← orDefault "" Outline.text? constraint,
      version := ← optional Version.ofOutline? version,
      kind := ← optional ValueKind.ofOutline? kind,
      description := ← orDefault "" Outline.text? description }
  | _ => none

/-- Reads a rule table. -/
def RuleTable.ofOutline? (o : Outline) : Option RuleTable := do
  match ← parts? ["version", "product", "entries"] o with
  | [version, product, rules] =>
    return {
      version := ← optional Version.ofOutline? version,
      product := ← optional Outline.text? product,
      rules := ← required (Outline.listOf? Rule.ofOutline?) rules }
  | _ => none

/-- Reads a node. -/
def Node.ofOutline? (o : Outline) : Option Node := do
  match ← parts? ["location", "value", "implied"] o with
  | [location, value, implied] =>
    return {
      location := ← required Location.ofOutline? location,
      value := ← optional AttributeValue.ofOutline? value,
      implied := ← orDefault false Outline.bool? implied }
  | _ => none

/-- Reads a layout. -/
def Layout.ofOutline? (o : Outline) : Option Layout := do
  match ← parts? ["nodes"] o with
  | [nodes] => return { nodes := ← required (Outline.listOf? Node.ofOutline?) nodes }
  | _ => none

/-- Reads whether single steps are reported. -/
def infoOfOutline? (o : Outline) : Option Bool := do
  match ← parts? ["info"] o with
  | [info] => required Outline.bool? info
  | _ => none

/-- Reads options. -/
def CompareOptions.ofOutline? (o : Outline) : Option CompareOptions := do
  match ← parts? ["check_optional", "check_extras", "diagnostics"] o with
  | [checkOptional, checkExtras, info] =>
    return {
      checkOptional := ← orDefault false Outline.bool? checkOptional,
      checkExtras := ← orDefault false Outline.bool? checkExtras,
      info := ← orDefault true infoOfOutline? info }
  | _ => none

end RadarConform
