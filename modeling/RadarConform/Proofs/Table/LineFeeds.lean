import RadarConform.Proofs.Table.FieldSpelling
import RadarConform.Proofs.Table.Lines
import RadarConform.Proofs.Table.Loading
import RadarConform.Proofs.Text.SingleLine

/-!
# No line feed comes out of a table

A line feed always ends a line of a table, also between quotes.  A field therefore holds none, and
neither does a location that is read from a field, since reading it only leaves characters out.

* `Location.singleLine_text_iff` — the text of a location stands on one line if its parts do.
* `Location.singleLine_of_parse`, `Location.singleLine_of_parseAttribute` — **what is read from one
  line stands on one line**.
* `Record.mem_of_mem_split` — a field holds characters of its line.
* `RuleTable.singleLine_of_load` — **the locations of all rules stand on one line each**.
-/

namespace RadarConform

open Text (SingleLine)

/-! ## Locations -/

namespace Location

lemma singleLine_pathText_iff {segments : List String} :
    SingleLine (pathText segments) ↔ ∀ s ∈ segments, SingleLine s := by
  by_cases hnil : segments = []
  · subst hnil
    exact ⟨fun _ => nofun, fun _ => by decide⟩
  · rw [SingleLine, toList_pathText hnil, List.mem_flatMap]
    constructor
    · exact fun h s hs hmem => h ⟨s, hs, List.mem_cons_of_mem _ hmem⟩
    · rintro h ⟨s, hs, hmem⟩
      rcases List.mem_cons.mp hmem with heq | hmem
      · exact absurd heq (by decide)
      · exact h s hs hmem

/-- The text of a location stands on one line if its parts do. -/
lemma singleLine_text_iff {l : Location} : SingleLine l.text ↔
    (∀ s ∈ l.segments, SingleLine s) ∧ ∀ name, l.attributeName = some name → SingleLine name := by
  have hmark : SingleLine "#" := by decide
  rw [text, Text.singleLine_append, singleLine_pathText_iff]
  refine and_congr_right fun _ => ?_
  cases l.attributeName with
  | none => simp [Text.singleLine_empty]
  | some name => simp [Text.singleLine_append, hmark]

lemma singleLine_of_mem_segmentsOf {path : List Char} (hpath : '\n' ∉ path) {s : String}
    (h : s ∈ segmentsOf path) : SingleLine s := by
  simp only [segmentsOf, List.mem_map, List.mem_filter, decide_eq_true_eq] at h
  obtain ⟨_, ⟨⟨p, hp, rfl⟩, -⟩, rfl⟩ := h
  rw [SingleLine, String.toList_ofList]
  exact fun hmem => hpath (Text.mem_of_mem_pieces hp (Text.mem_of_mem_trim hmem)).1

/-- **A location that is read from one line stands on one line.** -/
lemma singleLine_of_parse {input : String} {l : Location} (h : parse input = .ok l)
    (hinput : SingleLine input) : SingleLine l.text := by
  have hfree : ∀ p ∈ Text.pieces (· == '#') (Text.trim input.toList), '\n' ∉ p :=
    fun p hp hmem => hinput (Text.mem_of_mem_trim (Text.mem_of_mem_pieces hp hmem).1)
  rw [singleLine_text_iff]
  rcases pieces_of_parse h with ⟨path, hpieces, rfl⟩ | ⟨path, name, hpieces, -, rfl⟩
  · rw [hpieces, List.forall_mem_singleton] at hfree
    exact ⟨fun s hs => singleLine_of_mem_segmentsOf hfree hs, nofun⟩
  · rw [hpieces, List.forall_mem_cons, List.forall_mem_singleton] at hfree
    refine ⟨fun s hs => singleLine_of_mem_segmentsOf hfree.1 hs, fun name' heq => ?_⟩
    cases heq
    rw [SingleLine, String.toList_ofList]
    exact fun hmem => hfree.2 (Text.mem_of_mem_trim hmem)

/-- So does the location of an attribute that is named by the last segment. -/
lemma singleLine_of_parseAttribute {input : String} {l : Location}
    (h : parseAttribute input = .ok l) (hinput : SingleLine input) : SingleLine l.text := by
  rcases path_of_parseAttribute h with ⟨-, hparse⟩ | ⟨path, name, hpath, hname, rfl⟩
  · exact singleLine_of_parse hparse hinput
  · obtain ⟨hsegments, -⟩ := singleLine_text_iff.mp (singleLine_of_parse hpath hinput)
    refine singleLine_text_iff.mpr ⟨fun s hs => hsegments s (List.dropLast_subset _ hs), ?_⟩
    intro name' heq
    cases heq
    exact hsegments name (List.mem_of_getLast? hname)

end Location

/-! ## Lines -/

lemma TextOf.linefeed_notMem {lines : List (List Char)} {text : List Char} (h : TextOf lines text) :
    ∀ line ∈ lines, '\n' ∉ line := by
  induction h with
  | none => exact nofun
  | last hfeed => exact List.forall_mem_singleton.mpr hfeed
  | more hfeed _ _ ih => exact List.forall_mem_cons.mpr ⟨hfeed, ih⟩

lemma linefeed_notMem_recordLines {text : String} {n : Nat} {record : List Char}
    (h : (n, record) ∈ recordLines text) : '\n' ∉ record := by
  rw [recordLines_eq, mem_recordsFrom_iff] at h
  obtain ⟨line, -, hline, -, rfl⟩ := h
  have hfree := (textOf_linesOf text.toList).linefeed_notMem line (List.mem_of_getElem? hline)
  exact fun hmem => hfree ((List.dropWhile_sublist _).subset hmem)

/-! ## Fields -/

namespace Record

lemma Holds.mem_of_mem {text field : List Char} (h : Holds text field) {c : Char} (hc : c ∈ field) :
    c ∈ text := by
  cases h with
  | quoted => simp [mem_doubled_iff, hc]
  | plain => exact Text.mem_of_mem_trim hc

lemma mem_intercalate_of_mem {texts : List (List Char)} {text : List Char} (h : text ∈ texts)
    {c : Char} (hc : c ∈ text) : c ∈ [';'].intercalate texts := by
  induction texts with
  | nil => cases h
  | cons first rest ih =>
      by_cases hnil : rest = []
      · rw [hnil, List.mem_singleton] at h
        rwa [hnil, List.intercalate_singleton, ← h]
      · rw [List.intercalate_cons_of_ne_nil hnil, List.mem_append]
        rcases List.mem_cons.mp h with rfl | h
        · exact .inl (List.mem_append_left _ hc)
        · exact .inr (ih h)

/-- **A field holds characters of its line.** -/
lemma mem_of_mem_split {line : List Char} {fields : List String} (h : split line = .ok fields)
    {field : String} (hfield : field ∈ fields) {c : Char} (hc : c ∈ field.toList) : c ∈ line := by
  obtain ⟨parts, hparts, rfl⟩ := Except.map_eq_ok_iff.mp h
  obtain ⟨texts, -, rfl, htexts⟩ := splitChars_eq_ok_iff.mp hparts
  obtain ⟨part, hpart, rfl⟩ := List.mem_map.mp hfield
  rw [String.toList_ofList] at hc
  obtain ⟨text, htext, hholds⟩ := exists_of_forall₂ htexts.flip hpart
  exact mem_intercalate_of_mem htext (hholds.mem_of_mem hc)

end Record

/-! ## Rules -/

variable {rule : Rule} {version : Option Version}

lemma singleLine_of_ruleOfLine {columns : Columns} {line : List Char} (hline : '\n' ∉ line)
    (h : ruleOfLine columns version line = .ok rule) : SingleLine rule.location.text := by
  obtain ⟨fields, hfields, -⟩ := Except.bind_eq_ok_iff.mp h
  rw [Except.mapError_eq_ok_iff] at hfields
  rcases ruleOfLine_of_split hfields columns version with ⟨-, herror⟩ | ⟨row, hpicks, hrule⟩
  · cases herror.symm.trans h
  · obtain ⟨category, hsays⟩ := RowFields.rule_eq_ok_iff.mp (hrule.symm.trans h)
    have hnode : SingleLine row.node := fun hmem =>
      hline (Record.mem_of_mem_split hfields (List.mem_of_getElem? hpicks.node_eq) hmem)
    have hlocation := hsays.location_eq
    rw [Category.location] at hlocation
    split at hlocation
    · exact Location.singleLine_of_parseAttribute hlocation hnode
    · exact Location.singleLine_of_parse hlocation hnode

namespace RuleTable

variable {path : String} {table : RuleTable}

lemma singleLine_of_parse {text : String} (h : RuleTable.parse text path version = .ok table)
    (hrule : rule ∈ table.rules) : SingleLine rule.location.text := by
  obtain ⟨header, rows, fields, columns, rules, hrecords, -, -, hrules, rfl⟩ := parse_eq_ok_iff.mp h
  obtain ⟨row, hrow, hline⟩ := exists_of_forall₂ hrules.flip hrule
  have hmem : row ∈ recordLines text := by
    rw [hrecords]
    exact List.mem_cons_of_mem header hrow
  exact singleLine_of_ruleOfLine (linefeed_notMem_recordLines hmem) hline

/-- **The locations of a table of a file stand on one line each.** -/
lemma singleLine_of_load {store : FileStore} {file : FilePath}
    (h : (RuleTable.load store file).outcome = .ok table)
    (hrule : rule ∈ table.rules) : SingleLine rule.location.text := by
  obtain ⟨text, parsed, -, hparsed, rfl⟩ := load_eq_ok_iff.mp h
  rw [rules_named] at hrule
  exact singleLine_of_parse hparsed hrule

end RuleTable

end RadarConform
