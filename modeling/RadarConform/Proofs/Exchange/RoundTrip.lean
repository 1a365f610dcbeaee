import RadarConform.Exchange.Reading
import RadarConform.Exchange.Writing
import RadarConform.Proofs.Json.RoundTrip
import RadarConform.Proofs.Snapshot.Numbers
import RadarConform.Proofs.Table.Loading
import RadarConform.Proofs.Table.Naming

/-!
# Loaded data is read back from its JSON form

A layout or a table that was loaded is written in its JSON form and read again.  Nothing gets lost
on the way: what is left out because there is nothing to tell is what the reader puts there by
itself, and locations and revisions are read back from their texts because loading leaves them in
the form in which they are written.

* `recordOfParts`, `parts?_recordOfParts` — **the parts of a record are found under their names**,
  those that are left out as missing.
* `Number.ReadsBack` — a number that is read back from its own text.  Reading rounds twice, so not
  every number is.
* `Rule.ofOutline?_json`, `RuleTable.ofOutline?_json`, `Node.ofOutline?_json_iff`,
  `Layout.ofOutline?_json_iff` — each type on its own, for normal locations.
* `readsBack_of_load` — **what is loaded is read back** from either text of its JSON form, a layout
  exactly when its numbers are.
-/

namespace RadarConform

open Json (Outline outline)

/-! ## Records of parts -/

/-- The record of parts under their names, without those that are missing. -/
def recordOfParts (parts : List (String × Option Json)) : Json :=
  .record (parts.flatMap fun part => optionalEntry part.1 part.2)

/-- The entries that are read of a record of parts. -/
def readEntries (parts : List (String × Option Json)) : List (String × Outline) :=
  (parts.flatMap fun part => optionalEntry part.1 part.2).map fun entry =>
    (entry.1, outline entry.2)

section Records

variable {parts : List (String × Option Json)}

lemma entriesUnder_cons (part : String × Option Json) (key : String) :
    entriesUnder (readEntries (part :: parts)) key
      = (if part.1 = key then (part.2.map outline).toList else [])
        ++ entriesUnder (readEntries parts) key := by
  obtain ⟨name, value⟩ := part
  cases value with
  | none => simp [readEntries, optionalEntry]
  | some v =>
      by_cases hname : name = key
      · simp [readEntries, entriesUnder, optionalEntry, hname]
      · simp [readEntries, entriesUnder, optionalEntry, hname]

lemma entriesUnder_of_notMem {key : String} (h : key ∉ parts.map (·.1)) :
    entriesUnder (readEntries parts) key = [] := by
  induction parts with
  | nil => rfl
  | cons part rest ih =>
      rw [List.map_cons, List.mem_cons, not_or] at h
      rw [entriesUnder_cons, if_neg (Ne.symm h.1), ih h.2, List.nil_append]

/-- Under a name stands the part of that name and no other. -/
lemma entriesUnder_of_mem (h : (parts.map (·.1)).Nodup) {part : String × Option Json}
    (hpart : part ∈ parts) :
    entriesUnder (readEntries parts) part.1 = (part.2.map outline).toList := by
  induction parts with
  | nil => cases hpart
  | cons first rest ih =>
      rw [List.map_cons, List.nodup_cons] at h
      rw [entriesUnder_cons]
      rcases List.mem_cons.mp hpart with rfl | hrest
      · rw [if_pos rfl, entriesUnder_of_notMem h.1, List.append_nil]
      · have hne : first.1 ≠ part.1 := fun heq => h.1 (heq ▸ List.mem_map_of_mem hrest)
        rw [if_neg hne, ih h.2 hrest, List.nil_append]

/-- **The parts of a record are found under their names.** -/
lemma parts?_recordOfParts {names : List String} (hnames : parts.map (·.1) = names)
    (h : names.Nodup) :
    parts? names (recordOfParts parts).outline
      = some (parts.map fun part => part.2.map outline) := by
  subst hnames
  have hkeys : (Json.entryOutlines (parts.flatMap fun part => optionalEntry part.1 part.2)).mapM
      (fun entry => entry.1.map (·, entry.2)) = some (readEntries parts) := by
    rw [Json.entryOutlines_eq, readEntries, Option.mapM_eq_some_iff, List.forall₂_map_left_iff,
      List.forall₂_map_right_iff, List.forall₂_same]
    exact fun _ _ => rfl
  rw [recordOfParts, outline, parts?, hkeys]
  refine Option.mapM_eq_some_iff.mpr ?_
  rw [List.forall₂_map_left_iff, List.forall₂_map_right_iff, List.forall₂_same]
  intro part hpart
  rw [entriesUnder_of_mem h hpart]
  cases part.2 <;> rfl

end Records

/-! ## Single parts -/

lemma required_some {α : Type} (read : Outline → Option α) (o : Outline) :
    required read (some o) = read o := rfl

lemma orDefault_some {α : Type} (default : α) (read : Outline → Option α) (o : Outline) :
    orDefault default read (some o) = read o := rfl

lemma text?_outline (s : String) : Outline.text? (outline (.text s)) = some s := by
  rw [outline]
  rfl

lemma bool?_outline (b : Bool) : Outline.bool? (outline (.bool b)) = some b := by
  rw [outline]
  rfl

/-- A text that may be missing is read back if every text that may stand there is. -/
lemma optional_text {α : Type} {read : Outline → Option α} {form : α → String}
    (h : ∀ a, read (outline (.text (form a))) = some a) (value : Option α) :
    optional read ((value.map fun a => Json.text (form a)).map outline) = some value := by
  cases value with
  | none => rfl
  | some a =>
      have ha := h a
      rw [outline] at ha
      rw [Option.map_some, Option.map_some, outline, optional, ha]
      · rfl
      · intro hnull
        cases hnull

/-- A description that is left out when it is empty is read back. -/
lemma orDefault_description (s : String) :
    orDefault "" Outline.text? ((if s = "" then none else some (Json.text s)).map outline)
      = some s := by
  split
  · next h =>
      rw [h]
      rfl
  · rw [Option.map_some, orDefault_some, text?_outline]

/-- A mark that is left out when it is not set is read back. -/
lemma orDefault_mark (b : Bool) :
    orDefault false Outline.bool? ((if b then some (Json.bool true) else none).map outline)
      = some b := by
  cases b with
  | false => rfl
  | true => exact bool?_outline true

/-- A list is read back exactly when its items are. -/
lemma listOf?_outline_iff {α : Type} {read : Outline → Option α} {form : α → Json} {xs : List α} :
    Outline.listOf? read (outline (.list (xs.map form))) = some xs ↔
      ∀ x ∈ xs, read (form x).outline = some x := by
  rw [outline, Json.itemOutlines_eq, List.map_map, Outline.listOf?, Option.mapM_map_eq_some_iff]
  rfl

lemma Location.Normal.ofOutline?_text {l : Location} (h : l.Normal) :
    Location.ofOutline? (outline (.text l.text)) = some l := by
  rw [Location.ofOutline?, text?_outline, Option.bind_eq_bind, Option.bind_some, h.parse_text_eq]
  rfl

lemma Version.ofOutline?_text (v : Version) :
    Version.ofOutline? (outline (.text v.text)) = some v := by
  rw [Version.ofOutline?, text?_outline, Option.bind_eq_bind, Option.bind_some, v.parse_text_eq]
  rfl

lemma ValueKind.ofOutline?_name (kind : ValueKind) :
    ValueKind.ofOutline? (outline (.text kind.name)) = some kind := by
  rw [outline]
  cases kind with
  | text | number | numberSequence => rfl

/-! ## Tables -/

/-- The parts of a rule. -/
def Rule.parts (r : Rule) : List (String × Option Json) :=
  [("location", some (.text r.location.text)), ("mandatory", some (.bool r.mandatory)),
    ("constraint_text", some (.text r.constraint)),
    ("standard_version", r.version.map (.text ·.text)),
    ("expected_kind", r.kind.map (.text ·.name)),
    ("description", if r.description = "" then none else some (.text r.description))]

lemma Rule.parts?_json (r : Rule) :
    parts? ["location", "mandatory", "constraint_text", "standard_version", "expected_kind",
      "description"] r.json.outline = some (r.parts.map fun part => part.2.map outline) := by
  have hjson : r.json = recordOfParts r.parts := by
    simp [Rule.json, recordOfParts, Rule.parts, optionalEntry]
  rw [hjson]
  exact parts?_recordOfParts rfl (by decide)

/-- **A rule is read back.** -/
lemma Rule.ofOutline?_json {r : Rule} (h : r.location.Normal) :
    Rule.ofOutline? r.json.outline = some r := by
  simp only [Rule.ofOutline?, r.parts?_json, Rule.parts, List.map_cons, List.map_nil,
    Option.map_some, Option.bind_eq_bind, Option.bind_some, Option.pure_def, required_some,
    orDefault_some, bool?_outline, text?_outline, orDefault_description, h.ofOutline?_text,
    optional_text Version.ofOutline?_text, optional_text ValueKind.ofOutline?_name]

/-- The parts of a table. -/
def RuleTable.parts (t : RuleTable) : List (String × Option Json) :=
  [("version", t.version.map (.text ·.text)), ("product", t.product.map .text),
    ("entries", some (.list (t.rules.map Rule.json)))]

lemma RuleTable.parts?_json (t : RuleTable) :
    parts? ["version", "product", "entries"] t.json.outline
      = some (t.parts.map fun part => part.2.map outline) := by
  have hjson : t.json = recordOfParts t.parts := by
    simp [RuleTable.json, recordOfParts, RuleTable.parts, optionalEntry]
  rw [hjson]
  exact parts?_recordOfParts rfl (by decide)

/-- **A table is read back** if its rules are. -/
lemma RuleTable.ofOutline?_json {t : RuleTable} (h : ∀ rule ∈ t.rules, rule.location.Normal) :
    RuleTable.ofOutline? t.json.outline = some t := by
  have hrules : Outline.listOf? Rule.ofOutline? (outline (.list (t.rules.map Rule.json)))
      = some t.rules :=
    listOf?_outline_iff.mpr fun rule hrule => Rule.ofOutline?_json (h rule hrule)
  simp only [RuleTable.ofOutline?, t.parts?_json, RuleTable.parts, List.map_cons, List.map_nil,
    Option.map_some, Option.bind_eq_bind, Option.bind_some, Option.pure_def, required_some,
    optional_text Version.ofOutline?_text, optional_text text?_outline, hrules]

/-! ## Layouts -/

/-- A number that is read back from its own text. -/
def Number.ReadsBack (x : Number) : Prop :=
  (Json.parse (Json.realText x)).bind Json.number? = some x

instance (x : Number) : Decidable x.ReadsBack := inferInstanceAs (Decidable (_ = _))

lemma number?_outline_iff {x : Number} :
    Outline.number? (outline (.real x)) = some x ↔ x.ReadsBack := by
  rw [outline, Number.ReadsBack]
  cases Json.parse (Json.realText x) with
  | none | some => rfl

/-- A literal is read as a number exactly when it stands for one. -/
lemma optional_number_iff {v : Option Json} {x : Number} :
    optional AttributeValue.ofOutline? (some (.atom v)) = some (some (.number x)) ↔
      Outline.number? (.atom v) = some x := by
  cases v with
  | none => exact ⟨nofun, nofun⟩
  | some v =>
      cases v with
      | null | text => exact ⟨nofun, nofun⟩
      | integer | real =>
          simp [optional, AttributeValue.ofOutline?, Outline.number?, Outline.atom?, Json.number?]
      | bool | list | record => exact ⟨nofun, nofun⟩

/-- A list is read as a sequence exactly when its items are numbers. -/
lemma optional_sequence_iff {items : List Outline} {xs : List Number} :
    optional AttributeValue.ofOutline? (some (.list items)) = some (some (.sequence xs)) ↔
      Outline.listOf? Outline.number? (.list items) = some xs := by
  simp [optional, AttributeValue.ofOutline?, Outline.listOf?]

/-- **A value is read back exactly when its numbers are**, whatever its kind: a text is never taken
for a number, and an empty list is a sequence. -/
lemma optional_value_iff {value : Option AttributeValue} :
    optional AttributeValue.ofOutline? ((value.map AttributeValue.json).map outline) = some value ↔
      ∀ v, value = some v → ∀ x ∈ v.numbers, x.ReadsBack := by
  cases value with
  | none => exact ⟨fun _ => nofun, fun _ => rfl⟩
  | some v =>
      simp only [Option.map_some, Option.some.injEq, forall_eq']
      cases v with
      | text s =>
          rw [AttributeValue.json, outline]
          exact ⟨fun _ => List.forall_mem_nil _, fun _ => rfl⟩
      | number x =>
          rw [AttributeValue.json, outline, optional_number_iff, ← outline, number?_outline_iff,
            AttributeValue.numbers, List.forall_mem_singleton]
      | sequence xs =>
          have hitems := @listOf?_outline_iff _ Outline.number? Json.real xs
          rw [AttributeValue.json, outline, optional_sequence_iff, ← outline, hitems]
          exact forall₂_congr fun x _ => number?_outline_iff

/-- The parts of a node. -/
def Node.parts (n : Node) : List (String × Option Json) :=
  [("location", some (.text n.location.text)), ("value", n.value.map AttributeValue.json),
    ("implied", if n.implied then some (.bool true) else none)]

lemma Node.parts?_json (n : Node) :
    parts? ["location", "value", "implied"] n.json.outline
      = some (n.parts.map fun part => part.2.map outline) := by
  have hjson : n.json = recordOfParts n.parts := by
    simp [Node.json, recordOfParts, Node.parts, optionalEntry]
  rw [hjson]
  exact parts?_recordOfParts rfl (by decide)

/-- **A node is read back exactly when the numbers of its value are.** -/
lemma Node.ofOutline?_json_iff {n : Node} (h : n.location.Normal) :
    Node.ofOutline? n.json.outline = some n ↔
      ∀ v, n.value = some v → ∀ x ∈ v.numbers, x.ReadsBack := by
  rw [← optional_value_iff]
  simp only [Node.ofOutline?, n.parts?_json, Node.parts, List.map_cons, List.map_nil,
    Option.map_some, Option.bind_eq_bind, Option.bind_some, Option.pure_def, required_some,
    orDefault_mark, h.ofOutline?_text, Option.bind_eq_some_iff]
  constructor
  · rintro ⟨value, hvalue, heq⟩
    rw [hvalue, ← Option.some.inj heq]
  · intro hvalue
    exact ⟨n.value, hvalue, rfl⟩

lemma Layout.parts?_json (l : Layout) :
    parts? ["nodes"] l.json.outline = some [some (outline (.list (l.nodes.map Node.json)))] := by
  have hjson : l.json = recordOfParts [("nodes", some (.list (l.nodes.map Node.json)))] := rfl
  rw [hjson]
  exact parts?_recordOfParts rfl (by decide)

/-- A layout whose finite numbers are read back from their own texts. -/
def Layout.NumbersReadBack (layout : Layout) : Prop :=
  ∀ node ∈ layout.nodes, ∀ value, node.value = some value →
    ∀ x ∈ value.numbers, x.isFinite = true → x.ReadsBack

/-- **A layout is read back exactly when its numbers are**, if they are finite. -/
lemma Layout.ofOutline?_json_iff {layout : Layout} (h : ∀ n ∈ layout.nodes, n.location.Normal)
    (hfinite : layout.FiniteNumbers) :
    Layout.ofOutline? layout.json.outline = some layout ↔ layout.NumbersReadBack := by
  have hnodes : Outline.listOf? Node.ofOutline? (outline (.list (layout.nodes.map Node.json)))
      = some layout.nodes ↔ layout.NumbersReadBack := by
    rw [listOf?_outline_iff]
    refine forall₂_congr fun n hn => ?_
    rw [Node.ofOutline?_json_iff (h n hn)]
    refine forall₂_congr fun v hv => forall₂_congr fun x hx => ?_
    exact ⟨fun hx _ => hx, fun hback => hback (hfinite n hn v hv x hx)⟩
  simp only [Layout.ofOutline?, layout.parts?_json, Option.bind_eq_bind, Option.bind_some,
    Option.pure_def, required_some, Option.bind_eq_some_iff]
  rw [← hnodes]
  constructor
  · rintro ⟨nodes, hread, heq⟩
    rw [hread, ← Option.some.inj heq]
  · intro hread
    exact ⟨layout.nodes, hread, rfl⟩

/-! ## Texts -/

/-- The layout that a text stands for. -/
def Layout.ofText? (text : String) : Option Layout := do Layout.ofOutline? (← Outline.parse text)

/-- The table that a text stands for. -/
def RuleTable.ofText? (text : String) : Option RuleTable := do
  RuleTable.ofOutline? (← Outline.parse text)

lemma parse_write {write : Json → String} (h : write = Json.compact ∨ write = Json.pretty)
    (v : Json) : Outline.parse (write v) = some v.outline := by
  rcases h with rfl | rfl
  · exact Outline.parse_compact v
  · exact Outline.parse_pretty v

/-- **What is loaded is read back from its JSON form**, without blanks or with an item to a line.  A
table always is, and a layout exactly when its numbers are read back from their own texts. -/
theorem readsBack_of_load {write : Json → String}
    (hwrite : write = Json.compact ∨ write = Json.pretty) :
    (∀ text format path layout, Layout.parse text format path = .ok layout →
      (Layout.ofText? (write layout.json) = some layout ↔ layout.NumbersReadBack)) ∧
    (∀ text path version table, RuleTable.parse text path version = .ok table →
      RuleTable.ofText? (write table.json) = some table) ∧
    (∀ store path table, (RuleTable.load store path).outcome = .ok table →
      RuleTable.ofText? (write table.json) = some table) := by
  have htable : ∀ table : RuleTable, (∀ rule ∈ table.rules, rule.location.Normal) →
      RuleTable.ofText? (write table.json) = some table := by
    intro table hnormal
    rw [RuleTable.ofText?, parse_write hwrite, Option.bind_eq_bind, Option.bind_some]
    exact RuleTable.ofOutline?_json hnormal
  refine ⟨fun text format path layout h => ?_, fun text path version table h => ?_,
    fun store path table h => ?_⟩
  · rw [Layout.ofText?, parse_write hwrite, Option.bind_eq_bind, Option.bind_some]
    exact Layout.ofOutline?_json_iff (Layout.normal_of_parse h) (Layout.finiteNumbers_of_parse h)
  · exact htable table (RuleTable.normal_of_parse h)
  · exact htable table (RuleTable.normal_of_load h)

/-! ## A layout with values of all kinds -/

/-- A snapshot with a group that is not listed and with values of all kinds, among them an empty
list and a text that looks like a number. -/
def kindsText : String :=
  "\x7b\"/where#angle\": 0.5, \"/where#angles\": [], \"/where#code\": \"2.50\", "
    ++ "\"/where#levels\": [-3, 1e22]\x7d"

/-- Its layout. -/
def kindsLayout : Layout :=
  { nodes := [
      { location := .container ["where"], value := none, implied := true },
      { location := .ofAttribute ["where"] "angle"
        value := some (.number (Decimal.toNumber false { digits := 5, exponent := -1 }))
        implied := false },
      { location := .ofAttribute ["where"] "angles", value := some (.sequence [])
        implied := false },
      { location := .ofAttribute ["where"] "code", value := some (.text "2.50"), implied := false },
      { location := .ofAttribute ["where"] "levels"
        value := some (.sequence
          [Json.numberOfInt (-3), Decimal.toNumber false { digits := 1, exponent := 22 }])
        implied := false }] }

/-- A snapshot with a number that is written `1e-30` and read back as the one next to it. -/
def tinyText : String := "/how#loss: 1e-30\n"

/-- Its layout. -/
def tinyLayout : Layout :=
  { nodes := [
      { location := .container ["how"], value := none, implied := true },
      { location := .ofAttribute ["how"] "loss"
        value := some (.number (Decimal.toNumber false { digits := 1, exponent := -30 }))
        implied := false }] }

/-- A table with a rule that has a kind and no description, and one with a description and no
kind. -/
def kindsStore : FileStore := .ofList [
  ("ODIM_H5_V2_1_SCAN.csv",
    some ("Node;Category;Type;IsMandatory;PossibleValues;Description\n"
      ++ "/where#angles;attribute;array;TRUE;;\n/where;group;;FALSE;;Geography"))]

/-- The table as it is loaded. -/
def kindsTable : RuleTable :=
  { version := some ⟨2, 1⟩, product := some "SCAN", rules := [
      { location := .ofAttribute ["where"] "angles", mandatory := true, constraint := ""
        version := some ⟨2, 1⟩, kind := some .numberSequence, description := "" },
      { location := .container ["where"], mandatory := false, constraint := ""
        version := some ⟨2, 1⟩, kind := none, description := "Geography" }] }

/-- The first layout is read back and the second is not, and the table is. -/
theorem readsBack_of_load_kindsText :
    Layout.parse kindsText .json "snap" = .ok kindsLayout ∧
      Layout.ofText? (Json.compact kindsLayout.json) = some kindsLayout ∧
      Layout.parse tinyText .yaml "snap" = .ok tinyLayout ∧
      Layout.ofText? (Json.compact tinyLayout.json) ≠ some tinyLayout ∧
      (RuleTable.load kindsStore "ODIM_H5_V2_1_SCAN.csv").outcome = .ok kindsTable ∧
      RuleTable.ofText? (Json.pretty kindsTable.json) = some kindsTable := by
  have hkinds : Layout.parse kindsText .json "snap" = .ok kindsLayout :=
    Except.toOption_eq_some_iff.mp (by decide +kernel)
  have htiny : Layout.parse tinyText .yaml "snap" = .ok tinyLayout :=
    Except.toOption_eq_some_iff.mp (by decide +kernel)
  have hload : (RuleTable.load kindsStore "ODIM_H5_V2_1_SCAN.csv").outcome = .ok kindsTable :=
    Except.toOption_eq_some_iff.mp (by decide +kernel)
  refine ⟨hkinds, ?_, htiny, ?_, hload, (readsBack_of_load (.inr rfl)).2.2 _ _ _ hload⟩
  · rw [(readsBack_of_load (.inl rfl)).1 _ _ _ _ hkinds]
    have hback : ∀ node ∈ kindsLayout.nodes,
        ∀ x ∈ (node.value.map AttributeValue.numbers).getD [], x.ReadsBack := by decide +kernel
    intro node hnode value hvalue x hx _
    refine hback node hnode x ?_
    rw [hvalue]
    exact hx
  · rw [ne_eq, (readsBack_of_load (.inl rfl)).1 _ _ _ _ htiny]
    intro hback
    have hlast := hback _ (List.mem_cons_of_mem _ List.mem_cons_self) _ rfl _
      List.mem_cons_self (by decide +kernel)
    revert hlast
    decide +kernel

end RadarConform
