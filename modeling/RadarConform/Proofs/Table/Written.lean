import RadarConform.Proofs.Location
import RadarConform.Proofs.Table.Lines
import RadarConform.Proofs.Table.Loading
import RadarConform.Proofs.Table.Record

/-!
# Writing rule tables

Rules are written as a table whose fields are all quoted, and reading the table gives the rules
back, whatever their constraints and descriptions hold.

* `RuleTable.written` — the text of some rules.
* `Rule.Writable` — the rules that a table can hold: those with locations that can be read, and
  without line feeds.
* `KeptLine`, `recordLines_of_kept` — lines that arrive as they were written.
* `ruleOfLine_line` — **a rule is read back from its line**.
* `RuleTable.parse_written` — **a table is read back from its text**.
-/

namespace RadarConform

/-! ## Lines -/

/-- A line that reading a table neither cuts nor passes over. -/
structure KeptLine (line : List Char) : Prop where
  feed_notMem : '\n' ∉ line
  return_notLast : line.getLast? ≠ some '\r'
  dropMarks_eq : dropMarks line = line
  isRecord_eq : isRecord line = true

/-- Lines with line feeds between them, and one more after the last one or not. -/
def joinedLines (lines : List (List Char)) (ended : Bool) : List Char :=
  ['\n'].intercalate lines ++ if ended then ['\n'] else []

lemma KeptLine.ne_nil {line : List Char} (h : KeptLine line) : line ≠ [] := by
  rintro rfl
  cases h.isRecord_eq

/-- Lines that are kept make a text of these lines. -/
lemma textOf_joinedLines {lines : List (List Char)} (hne : lines ≠ [])
    (h : ∀ line ∈ lines, KeptLine line) (ended : Bool) :
    TextOf lines (joinedLines lines ended) := by
  induction lines with
  | nil => exact absurd rfl hne
  | cons line rest ih =>
      obtain ⟨hline, hrest⟩ := List.forall_mem_cons.mp h
      have hend : EndsLine line ['\n'] := .feed hline.return_notLast
      by_cases hnil : rest = []
      · subst hnil
        rw [joinedLines, List.intercalate_singleton]
        cases ended with
        | true => simpa using TextOf.more hline.feed_notMem hend .none
        | false => simpa using TextOf.last hline.feed_notMem hline.ne_nil
      · have hmore := TextOf.more hline.feed_notMem hend (ih hnil hrest)
        rw [joinedLines, List.intercalate_cons_of_ne_nil hnil, List.append_assoc]
        exact hmore

lemma mem_of_mem_numberedFrom {n : Nat} {lines : List (List Char)} {row : Nat × List Char}
    (h : row ∈ numberedFrom n lines) : row.2 ∈ lines := by
  rw [numberedFrom_eq, List.mem_map] at h
  obtain ⟨_, hmem, rfl⟩ := h
  exact List.fst_mem_of_mem_zipIdx hmem

/-- **Every line that is kept arrives as it was**, with its number. -/
lemma recordLines_of_kept {lines : List (List Char)} (hne : lines ≠ [])
    (h : ∀ line ∈ lines, KeptLine line) (ended : Bool) :
    recordLines (.ofList (joinedLines lines ended)) = numberedFrom 1 lines := by
  have hmarks : lines.map dropMarks = lines :=
    (List.map_congr_left fun line hline => (h line hline).dropMarks_eq).trans (List.map_id lines)
  rw [recordLines, String.toList_ofList, (textOf_joinedLines hne h ended).linesOf_eq, hmarks,
    List.filter_eq_self]
  exact fun row hrow => (h row.2 (mem_of_mem_numberedFrom hrow)).isRecord_eq

/-- **A line of quoted fields is neither cut nor passed over**, if no field has a line feed: it
starts and ends with a quote. -/
lemma keptLine_line {fields : List String} (hne : fields ≠ [])
    (h : ∀ field ∈ fields, '\n' ∉ field.toList) : KeptLine (Record.line fields) := by
  obtain ⟨cs, hline⟩ := Record.exists_line_eq_cons hne
  obtain ⟨rest, htrim⟩ := Text.exists_trim_cons (c := '"') (by decide) cs
  refine ⟨fun hmem => ?_, ?_, ?_, ?_⟩
  · rcases Record.mem_line hmem with heq | heq | ⟨field, hfield, hmem⟩
    · cases heq
    · cases heq
    · exact h field hfield hmem
  · rw [Record.getLast?_line hne]
    decide
  · rw [hline, dropMarks, List.dropWhile_cons_of_neg (by decide)]
  · rw [hline, isRecord, htrim]
    rfl

/-! ## Rules as they are written -/

namespace Rule

/-- The fields of a rule in a table. -/
def fields (r : Rule) : List String :=
  [r.location.text, if r.location.isAttribute then "attribute" else "group",
    (r.kind.map ValueKind.name).getD "", if r.mandatory then "TRUE" else "FALSE", r.constraint,
    r.description]

/-- A rule that a table can hold: its location can be read, only the rule of an attribute has a
kind, and no field has a line feed. -/
structure Writable (r : Rule) : Prop where
  location_read : ∃ input, Location.parse input = .ok r.location
  kind_eq_none : r.location.isAttribute = false → r.kind = none
  location_line : '\n' ∉ r.location.text.toList
  constraint_line : '\n' ∉ r.constraint.toList
  description_line : '\n' ∉ r.description.toList

/-- The same rule in a table of a revision. -/
def stamped (r : Rule) (version : Option Version) : Rule := { r with version }

lemma fields_ne_nil (r : Rule) : r.fields ≠ [] := List.cons_ne_nil _ _

/-- No field of a rule has a line feed. -/
lemma Writable.feed_notMem {r : Rule} (h : r.Writable) :
    ∀ field ∈ r.fields, '\n' ∉ field.toList := by
  intro field hfield hmem
  simp only [fields, List.mem_cons, List.not_mem_nil, or_false] at hfield
  rcases hfield with rfl | rfl | rfl | rfl | rfl | rfl
  · exact h.location_line hmem
  · revert hmem
    cases r.location.isAttribute <;> decide
  · revert hmem
    rcases r.kind with - | - | - | - <;> decide
  · revert hmem
    cases r.mandatory <;> decide
  · exact h.constraint_line hmem
  · exact h.description_line hmem

lemma Writable.kept {r : Rule} (h : r.Writable) : KeptLine (Record.line r.fields) :=
  keptLine_line r.fields_ne_nil h.feed_notMem

end Rule

/-! ## Reading the line of a rule -/

/-- The columns of a table as it is written. -/
def Columns.written : Columns :=
  { node := 0, category := 1, valueType := 2, mandatory := 3, values := 4, description := some 5 }

/-- The category under which a location is written. -/
def Category.of (l : Location) : Category := if l.isAttribute then .attr else .group

lemma Category.parse?_of (l : Location) :
    Category.parse? (if l.isAttribute then "attribute" else "group") = some (Category.of l) := by
  rw [Category.of]
  cases l.isAttribute <;> decide +kernel

lemma flag?_written (mandatory : Bool) :
    flag? (if mandatory then "TRUE" else "FALSE") = some mandatory := by
  cases mandatory <;> decide +kernel

/-- The location of a rule is read in the notation of its category. -/
lemma Category.location_of {r : Rule} (h : r.Writable) :
    (Category.of r.location).location r.location.text = .ok r.location := by
  obtain ⟨input, hinput⟩ := h.location_read
  rw [Category.of]
  cases hattribute : r.location.isAttribute with
  | true => exact Location.parseAttribute_text_of_parse hinput hattribute
  | false => exact Location.parse_text_of_parse hinput

/-- The kind of a rule is read back from its name. -/
lemma Category.kind_of {r : Rule} (h : r.Writable) :
    (Category.of r.location).kind ((r.kind.map ValueKind.name).getD "") = .ok r.kind := by
  rw [Category.of]
  cases hattribute : r.location.isAttribute with
  | true =>
      rcases r.kind with - | - | - | -
      all_goals exact Except.toOption_eq_some_iff.mp (by decide +kernel)
  | false =>
      rw [h.kind_eq_none hattribute]
      rfl

/-- **A rule is read back from its line**, for whatever revision. -/
lemma ruleOfLine_line {r : Rule} (h : r.Writable) (version : Option Version) :
    ruleOfLine .written version (Record.line r.fields) = .ok (r.stamped version) := by
  have hpick : Columns.written.pick? r.fields = some
      { node := r.location.text
        category := if r.location.isAttribute then "attribute" else "group"
        valueType := (r.kind.map ValueKind.name).getD ""
        mandatory := if r.mandatory then "TRUE" else "FALSE"
        values := r.constraint
        description := r.description } := rfl
  -- The row of a group does not name an attribute, since it is the location that decides.
  have hcategory : ¬ (Category.of r.location ≠ .attr ∧ r.location.isAttribute) := by
    rw [Category.of]
    cases r.location.isAttribute <;> decide
  simp only [ruleOfLine, Record.split_line r.fields_ne_nil, Except.mapError_ok, Except.ok_bind,
    hpick, RowFields.rule, Category.parse?_of, Category.location_of h, hcategory,
    if_false, flag?_written, Category.kind_of h]
  rfl

/-! ## Tables -/

namespace RuleTable

/-- The names of the columns of a table as it is written. -/
def header : String := "Node;Category;Type;IsMandatory;PossibleValues;Description"

/-- The lines of a table of some rules. -/
def lines (rules : List Rule) : List (List Char) :=
  header.toList :: rules.map fun r => Record.line r.fields

/-- The text of a table of some rules; its last line may be ended by a line feed or by the text. -/
def written (rules : List Rule) (ended : Bool) : String := .ofList (joinedLines (lines rules) ended)

lemma kept_of_mem_lines {rules : List Rule} (h : ∀ r ∈ rules, r.Writable) {line : List Char}
    (hline : line ∈ lines rules) : KeptLine line := by
  rcases List.mem_cons.mp hline with rfl | hline
  · constructor <;> decide +kernel
  · obtain ⟨r, hr, rfl⟩ := List.mem_map.mp hline
    exact (h r hr).kept

/-- The rows of a table as it is written are read one by one. -/
lemma forall₂_ruleOfLine {rules : List Rule} (h : ∀ r ∈ rules, r.Writable)
    (version : Option Version) (n : Nat) :
    List.Forall₂ (fun row rule => ruleOfLine .written version row.2 = .ok rule)
      (numberedFrom n (rules.map fun r => Record.line r.fields))
      (rules.map (·.stamped version)) := by
  induction rules generalizing n with
  | nil => exact .nil
  | cons r rest ih =>
      obtain ⟨hr, hrest⟩ := List.forall_mem_cons.mp h
      exact .cons (ruleOfLine_line hr version) (ih hrest (n + 1))

/-- **The format of tables loses nothing.**  What is written of rules is read as the same rules in
the same order, each of them with the revision that the table is read for. -/
theorem parse_written {rules : List Rule} (h : ∀ r ∈ rules, r.Writable) (ended : Bool)
    (path : String) (version : Option Version) :
    RuleTable.parse (written rules ended) path version
      = .ok { version := none, product := none, rules := rules.map (·.stamped version) } := by
  refine parse_eq_ok_iff.mpr ⟨(1, header.toList), _,
    ["Node", "Category", "Type", "IsMandatory", "PossibleValues", "Description"], .written, _,
    ?_, ?_, ?_, forall₂_ruleOfLine h version 2, rfl⟩
  · exact recordLines_of_kept (List.cons_ne_nil _ _) (fun _ => kept_of_mem_lines h) ended
  · exact Except.toOption_eq_some_iff.mp (by decide +kernel)
  · constructor <;> decide +kernel

/-- A rule in whose texts everything stands that means something in a table, but line feeds. -/
def oddRule : Rule where
  location := { segments := ["scan;\"1\"", "how"], attributeName := some "a/b" }
  mandatory := true
  constraint := "\ufeff# a;\"b\"|\"\" \r"
  version := none
  kind := some .numberSequence
  description := " ;"

/-- A rule for the root group. -/
def rootRule : Rule where
  location := .root
  mandatory := false
  constraint := "#"
  version := some ⟨2, 0⟩
  kind := none
  description := ""

example : written [oddRule, rootRule] false
    = "Node;Category;Type;IsMandatory;PossibleValues;Description\n" ++
      "\"/scan;\"\"1\"\"/how#a/b\";\"attribute\";\"number_sequence\";\"TRUE\";" ++
      "\"\ufeff# a;\"\"b\"\"|\"\"\"\" \r\";\" ;\"\n" ++
      "\"/\";\"group\";\"\";\"FALSE\";\"#\";\"\"" := by
  decide +kernel

/-- Separators, quotes, comment signs, marks and blanks all come back. -/
theorem parse_written_of_oddRule : (∀ r ∈ [oddRule, rootRule], r.Writable) ∧
    RuleTable.parse (written [oddRule, rootRule] false) "t.csv" (some ⟨2, 1⟩)
      = .ok { version := none, product := none,
              rules := [{ oddRule with version := some ⟨2, 1⟩ },
                { rootRule with version := some ⟨2, 1⟩ }] } := by
  have h : ∀ r ∈ [oddRule, rootRule], r.Writable := by
    intro r hr
    rcases List.mem_pair.mp hr with rfl | rfl
    · refine ⟨⟨" scan;\"1\" // how # a/b", ?_⟩, nofun, ?_, ?_, ?_⟩
      · exact Except.toOption_eq_some_iff.mp (by decide +kernel)
      all_goals decide +kernel
    · refine ⟨⟨"/", ?_⟩, fun _ => rfl, ?_, ?_, ?_⟩
      · exact Except.toOption_eq_some_iff.mp (by decide +kernel)
      all_goals decide +kernel
  exact ⟨h, parse_written h false "t.csv" (some ⟨2, 1⟩)⟩

end RuleTable

end RadarConform
