import RadarConform.Proofs.Command.Batch
import RadarConform.Proofs.Comparison.Revision
import RadarConform.Proofs.Constraint.SingleLine
import RadarConform.Proofs.Table.LineFeeds

/-!
# What the text output looks like

The output as text is meant for readers that go through it line by line: one line for each file, one
that is set in for each of its violations, and one at the end that counts the files that comply.
Almost everything in it is quoted or free of line feeds by its form.  What is not is the path of a
table and the locations of nodes, which are written as they are.

* `LaidOut` — an output of the intended lines.
* `Violation.node?` — the location of a node in a violation; `singleLine_of_mem_violations`: a
  violation stands on one line **unless that location does not**.
* `Compared`, `runResults_compared` — what every result of a run comes from.
* `laidOut_iff_of_runCheck` — **an output is laid out as intended exactly if no line feed stands in
  the path of a table or in the location of a node that is reported**.
-/

namespace RadarConform

open Text (SingleLine)

/-! ## Layout of the output -/

/-- The lines for one file, as they are meant to be: the first starts with the file, and every
violation has one line of its own. -/
def CheckedFile.ShownBy (c : CheckedFile) (lines : List (List Char)) : Prop :=
  ∃ first fails, lines = first :: fails ∧ (c.file.shown ++ ": ").toList <+: first ∧
    fails.length = c.report.violations.length ∧ ∀ line ∈ fails, "  FAIL: ".toList <+: line

/-- The line that counts the files that comply. -/
def summaryLine (files : List CheckedFile) : String :=
  "Files: " ++ toString (files.countP (·.report.isCompliant)) ++ "/" ++ toString files.length
    ++ " compliant"

/-- An output of the lines for each file and the line that counts, and of no other lines.  Nothing
stands after the last line feed. -/
def LaidOut (files : List CheckedFile) (output : String) : Prop :=
  ∃ blocks, List.Forall₂ CheckedFile.ShownBy files blocks ∧
    Text.pieces (· == '\n') output.toList = blocks.flatten ++ [(summaryLine files).toList, []]

lemma textOutput_eq (files : List CheckedFile) :
    textOutput files = Text.ended (files.flatMap CheckedFile.lines ++ [summaryLine files]) := rfl

lemma singleLine_summaryLine (files : List CheckedFile) : SingleLine (summaryLine files) :=
  (((SingleLine.append (by decide) (Text.singleLine_toString _)).append (by decide)).append
    (Text.singleLine_toString _)).append (by decide)

namespace CheckedFile

lemma violations_of_isCompliant {r : Report} (h : r.isCompliant = true) : r.violations = [] :=
  List.isEmpty_iff.mp h

lemma length_lines (c : CheckedFile) : c.lines.length = c.report.violations.length + 1 := by
  rw [lines]
  split
  · next h => rw [violations_of_isCompliant h]; rfl
  · rw [List.length_cons, List.length_map]

lemma ShownBy.length_eq {c : CheckedFile} {block : List (List Char)} (h : c.ShownBy block) :
    block.length = c.lines.length := by
  obtain ⟨first, fails, rfl, -, hlength, -⟩ := h
  rw [length_lines, List.length_cons, hlength]

/-- The intended lines are as many as are written. -/
lemma length_flatten_of_shownBy {files : List CheckedFile} {blocks : List (List (List Char))}
    (h : List.Forall₂ ShownBy files blocks) :
    blocks.flatten.length = (files.flatMap lines).length := by
  induction h with
  | nil => rfl
  | cons hblock _ ih =>
      rw [List.flatten_cons, List.flatMap_cons, List.length_append, List.length_append, ih,
        hblock.length_eq]

lemma shownBy_lines (c : CheckedFile) : c.ShownBy (c.lines.map String.toList) := by
  rw [lines]
  split
  · next h =>
      refine ⟨_, [], rfl, ?_, by rw [violations_of_isCompliant h]; rfl, fun _ => nofun⟩
      simp [List.append_assoc]
  · refine ⟨_, _, rfl, ?_, by rw [List.length_map, List.length_map], ?_⟩
    · simp [List.append_assoc]
    · rw [List.map_map, List.forall_mem_map]
      intro v _
      rw [Function.comp_apply, String.toList_append]
      exact List.prefix_append _ _

/-- The lines of a file are single ones if the table and the violations are. -/
lemma singleLine_lines_iff {c : CheckedFile} (hfile : SingleLine c.file.shown) :
    (∀ line ∈ c.lines, SingleLine line) ↔
      SingleLine c.table.shown ∧ ∀ v ∈ c.report.violations, SingleLine v.text := by
  rw [lines]
  split
  · next h =>
      simp +decide only [Text.singleLine_append, Text.singleLine_toString, hfile,
        List.forall_mem_singleton, violations_of_isCompliant h, List.not_mem_nil, false_imp_iff,
        implies_true, and_true, true_and]
  · simp +decide only [Text.singleLine_append, Text.singleLine_toString, hfile,
      List.forall_mem_cons, List.forall_mem_map, and_true, true_and]

end CheckedFile

/-- **The output is laid out as intended** exactly if tables and violations stand on one line. -/
lemma laidOut_textOutput_iff {files : List CheckedFile}
    (hfiles : ∀ c ∈ files, SingleLine c.file.shown) : LaidOut files (textOutput files) ↔
      ∀ c ∈ files, SingleLine c.table.shown ∧ ∀ v ∈ c.report.violations, SingleLine v.text := by
  have hlines : (∀ line ∈ files.flatMap CheckedFile.lines ++ [summaryLine files], SingleLine line)
      ↔ ∀ c ∈ files, SingleLine c.table.shown ∧ ∀ v ∈ c.report.violations, SingleLine v.text := by
    rw [List.forall_mem_append, List.forall_mem_singleton,
      and_iff_left (singleLine_summaryLine files), List.forall_mem_flatMap]
    exact forall₂_congr fun c hc => CheckedFile.singleLine_lines_iff (hfiles c hc)
  rw [← hlines]
  constructor
  · rintro ⟨blocks, hblocks, hpieces⟩
    -- No line is read back as more than one, since no more are meant to be there.
    have hlength := CheckedFile.length_flatten_of_shownBy hblocks
    rw [← Text.length_pieces_ended_iff, ← textOutput_eq, hpieces]
    simp [hlength]
  · intro h
    refine ⟨files.map fun c => c.lines.map String.toList, ?_, ?_⟩
    · rw [List.forall₂_map_right_iff, List.forall₂_same]
      exact fun c _ => c.shownBy_lines
    · rw [textOutput_eq, Text.pieces_ended h]
      simp [List.flatMap, List.map_flatten, List.map_map, Function.comp_def]

/-! ## Violations -/

/-- The location of a node in what a violation says.  A rule without a node shows its own location
instead. -/
def Violation.node? (v : Violation) : Option Location :=
  match v.finding with
  | .missing => none
  | .valueMismatch observed _ | .kindMismatch observed _ _ => some observed
  | .unexpected => some v.rule.location

lemma ValueKind.singleLine_name (k : ValueKind) : SingleLine k.name := by
  cases k with
  | text | number | numberSequence => decide

namespace Comparison

variable {layout : Layout} {table : RuleTable} {options : CompareOptions} {r : Report}
  {v : Violation}

/-- A violation of a rule is one at a node of the layout, or that no node is there. -/
lemma check_of_mem_violations (h : (compare layout table options).outcome = .ok r)
    (hv : v ∈ r.violations) :
    (v.rule ∈ table.rules ∧ (v.finding = .missing ∨
        ∃ node ∈ layout.nodes, Naive.check v.rule node = .ok (some v.finding))) ∨
      ∃ node ∈ layout.nodes, v = node.asExtra table.version := by
  rcases source_of_mem_violations h hv with ⟨rule, hrule, _, hcheck, hmem⟩ | ⟨node, hnode, -, -, heq⟩
  · obtain ⟨rfl, ⟨hmissing, -, -⟩ | ⟨-, node, hnode, -, hfinding⟩⟩ :=
      (mem_checkRule_iff hcheck).mp hmem
    · exact .inl ⟨hrule, .inl hmissing⟩
    · exact .inl ⟨hrule, .inr ⟨node, hnode, hfinding⟩⟩
  · exact .inr ⟨node, hnode, heq⟩

/-- The location of a node in a violation is one of the layout. -/
lemma exists_node_of_mem_violations (h : (compare layout table options).outcome = .ok r)
    (hv : v ∈ r.violations) {l : Location} (hl : v.node? = some l) :
    ∃ node ∈ layout.nodes, node.location = l := by
  rcases check_of_mem_violations h hv with ⟨-, hmissing | ⟨node, hnode, hcheck⟩⟩ | ⟨node, hnode, rfl⟩
  · rw [Violation.node?, hmissing] at hl
    cases hl
  · refine ⟨node, hnode, ?_⟩
    rw [Violation.node?] at hl
    rcases finding_of_check hcheck with ⟨_, heq⟩ | ⟨_, heq⟩
    · rw [heq] at hl
      exact Option.some.inj hl
    · rw [heq] at hl
      exact Option.some.inj hl
  · exact ⟨node, hnode, Option.some.inj hl⟩

/-- **A violation stands on one line** exactly if the location of its node does. -/
lemma singleLine_of_mem_violations (h : (compare layout table options).outcome = .ok r)
    (hrules : ∀ rule ∈ table.rules, SingleLine rule.location.text) (hv : v ∈ r.violations) :
    SingleLine v.text ↔ ∀ l, v.node? = some l → SingleLine l.text := by
  have hstatus : SingleLine (if v.rule.mandatory then "mandatory" else "optional") := by
    cases v.rule.mandatory with
    | true | false => decide
  rcases check_of_mem_violations h hv with ⟨hrule, hmissing | ⟨node, -, hcheck⟩⟩ | ⟨node, -, rfl⟩
  · rw [Violation.text, Violation.node?, hmissing]
    simp +decide only [Text.singleLine_append, hrules _ hrule, hstatus]
  · rcases finding_of_check hcheck with ⟨expected, heq⟩ | ⟨explanation, heq⟩
    · rw [Violation.text, Violation.node?, heq]
      simp +decide only [Text.singleLine_append, hstatus, expected.singleLine_name, and_true,
        Option.some.injEq, forall_eq']
      refine and_iff_left ?_
      cases node.value with
      | none => decide
      | some value => exact value.kind.singleLine_name
    · rw [heq] at hcheck
      rw [Violation.text, Violation.node?, heq]
      simp +decide only [Text.singleLine_append, hstatus, Text.singleLine_quoted,
        singleLine_of_check hcheck, and_true, Option.some.injEq, forall_eq']
  · simp +decide only [Violation.text, Violation.node?, Node.asExtra, Rule.undescribed,
      Text.singleLine_append, and_true, Option.some.injEq, forall_eq']

end Comparison

/-! ## The whole run -/

/-- Every table is one of a file. -/
def LoadedTables.OfFiles (tables : LoadedTables) (store : FileStore) : Prop :=
  ∀ path table, (path, table) ∈ tables → (RuleTable.load store path).outcome = .ok table

variable {store : FileStore} {a : Arguments} {settings : Settings} {tables : LoadedTables}

lemma LoadedTables.ofFiles_nil (store : FileStore) : OfFiles [] store := nofun

lemma LoadedTables.ofFiles_of_load (htables : tables.OfFiles store) {path : FilePath}
    {table : RuleTable} {later : LoadedTables}
    (h : (tables.load store path).outcome = .ok (table, later)) :
    (∃ source, (RuleTable.load store source).outcome = .ok table) ∧ later.OfFiles store := by
  rw [LoadedTables.load] at h
  split at h
  · next found _ hfind =>
      cases h
      exact ⟨⟨_, htables _ _ (List.mem_of_find?_eq_some hfind)⟩, htables⟩
  · rw [Logged.outcome_bind] at h
    obtain ⟨loaded, hload, h⟩ := Except.bind_eq_ok_iff.mp h
    cases h
    refine ⟨⟨path, hload⟩, fun p t hmem => ?_⟩
    rcases List.mem_cons.mp hmem with heq | hmem
    · cases heq
      exact hload
    · exact htables p t hmem

/-- What a result of a run comes from: the layout of its file, and a table of a file that the layout
was compared with. -/
structure CheckedFile.Compared (store : FileStore) (options : CompareOptions) (file : FilePath)
    (c : CheckedFile) : Prop where
  file_eq : c.file = file
  compared : ∃ layout table source, (Layout.load store file).outcome = .ok layout ∧
    (RuleTable.load store source).outcome = .ok table ∧
    (compare layout table options).outcome = .ok c.report

lemma checkFile_compared (htables : tables.OfFiles store) {file : FilePath} {c : CheckedFile}
    {later : LoadedTables}
    (h : (checkFile store a settings tables file).outcome = .ok (c, later)) :
    c.Compared store (settings.options a) file ∧ later.OfFiles store := by
  rw [outcome_checkFile] at h
  obtain ⟨layout, hlayout, h⟩ := Except.bind_eq_ok_iff.mp h
  obtain ⟨path, -, h⟩ := Except.bind_eq_ok_iff.mp h
  obtain ⟨⟨table, loaded⟩, hload, h⟩ := Except.bind_eq_ok_iff.mp h
  rw [Except.mapError_eq_ok_iff] at hlayout hload
  obtain ⟨report, hreport, h⟩ := Except.bind_eq_ok_iff.mp h
  rw [Except.mapError_eq_ok_iff] at hreport
  cases h
  obtain ⟨⟨source, hsource⟩, hloaded⟩ := LoadedTables.ofFiles_of_load htables hload
  exact ⟨⟨rfl, layout, table, source, hlayout, hsource, hreport⟩, hloaded⟩

lemma checkFiles_compared (htables : tables.OfFiles store) {files : List FilePath}
    {checked : List CheckedFile}
    (h : (checkFiles store a settings tables files).outcome = .ok checked) :
    List.Forall₂ (CheckedFile.Compared store (settings.options a)) files checked := by
  -- The tables grow from file to file, so the statement is for all that come from files.
  induction files generalizing tables checked with
  | nil =>
      cases h
      exact .nil
  | cons file rest ih =>
      rw [checkFiles, Logged.outcome_bind] at h
      obtain ⟨⟨first, later⟩, hfirst, h⟩ := Except.bind_eq_ok_iff.mp h
      rw [Logged.outcome_bind] at h
      obtain ⟨others, hothers, h⟩ := Except.bind_eq_ok_iff.mp h
      cases h
      obtain ⟨hcompared, hlater⟩ := checkFile_compared htables hfirst
      exact .cons hcompared (ih hlater hothers)

/-- **Every result of a run compares its own layout with a table of a file.** -/
lemma runResults_compared {checked : List CheckedFile}
    (h : runResults store a settings = .ok checked) :
    List.Forall₂ (CheckedFile.Compared store (settings.options a)) a.files checked :=
  checkFiles_compared (LoadedTables.ofFiles_nil store) h

/-- **Line feeds from where an output is not laid out.**  A check of files whose paths have no line
feed succeeds and prints text.  The text is laid out as intended exactly if neither the path of a
table nor the location of a node in a violation holds a line feed; such a location is always one of
the layout of the file.  Nothing else that a layout or a table holds adds a line. -/
theorem laidOut_iff_of_runCheck {output : Output} (hformat : a.format.getD .text = .text)
    (hfiles : ∀ file ∈ a.files, SingleLine file.shown)
    (h : (runCheck store a settings).outcome = .ok output) :
    ∃ checked, runResults store a settings = .ok checked ∧ checked.map (·.file) = a.files ∧
      (∀ c ∈ checked, ∃ layout, (Layout.load store c.file).outcome = .ok layout ∧
        ∀ v ∈ c.report.violations, ∀ l, v.node? = some l → ∃ node ∈ layout.nodes,
          node.location = l) ∧
      (LaidOut checked output.text ↔ ∀ c ∈ checked, SingleLine c.table.shown ∧
        ∀ v ∈ c.report.violations, ∀ l, v.node? = some l → SingleLine l.text) := by
  rw [outcome_runCheck, hformat] at h
  obtain ⟨checked, hchecked, h⟩ := Except.bind_eq_ok_iff.mp h
  cases h
  have hcompared := runResults_compared hchecked
  have hsource : ∀ c ∈ checked, ∃ file ∈ a.files, c.Compared store (settings.options a) file :=
    fun c hc => exists_of_forall₂ hcompared.flip hc
  refine ⟨checked, hchecked, ?_, fun c hc => ?_, ?_⟩
  · have hfiles : List.Forall₂ Eq a.files (checked.map (·.file)) :=
      List.forall₂_map_right_iff.mpr (hcompared.imp fun _ _ hc => hc.file_eq.symm)
    rw [List.forall₂_eq_eq_eq] at hfiles
    exact hfiles.symm
  · obtain ⟨_, -, rfl, layout, table, source, hlayout, -, hreport⟩ := hsource c hc
    exact ⟨layout, hlayout, fun v hv l hl =>
      Comparison.exists_node_of_mem_violations hreport hv hl⟩
  · have hnames : ∀ c ∈ checked, SingleLine c.file.shown := by
      intro c hc
      obtain ⟨file, hfile, rfl, -⟩ := hsource c hc
      exact hfiles _ hfile
    refine (laidOut_textOutput_iff hnames).trans (forall₂_congr fun c hc => ?_)
    obtain ⟨_, -, -, layout, table, source, -, htable, hreport⟩ := hsource c hc
    exact and_congr_right fun _ => forall₂_congr fun v hv =>
      Comparison.singleLine_of_mem_violations hreport
        (fun rule hrule => RuleTable.singleLine_of_load htable hrule) hv

/-- Two layouts of one attribute that differ in a line feed inside its name, and a table that
describes neither. -/
def feedStore : FileStore := .ofList [
  ("fed.json", some "\x7b\"/how#gain\\nused\": 1\x7d"),
  ("plain.json", some "\x7b\"/how#gain used\": 1\x7d"),
  ("table.csv", some "Node;Category;Type;IsMandatory;PossibleValues\n")]

/-- A check of files with the table, nodes that it does not describe included. -/
def feedArguments (files : List FilePath) : Arguments :=
  { Arguments.none with files, table := some "table.csv", checkExtras := true }

deriving instance DecidableEq for CheckedFile

/-- The result for a layout of one attribute that the table does not describe. -/
def feedResult (file : FilePath) (name : String) : CheckedFile where
  file := file
  table := "table.csv"
  report := {
    violations := [
      { rule := .undescribed (.ofAttribute ["how"] name) none, finding := .unexpected }]
    rulesChecked := 0
    nodesObserved := 2 }

lemma outcome_runCheck_feed {file : FilePath} {name : String}
    (h : (checkAlone feedStore (feedArguments []) .standard file).toOption
      = some (feedResult file name)) :
    runResults feedStore (feedArguments [file]) .standard = .ok [feedResult file name] ∧
      (runCheck feedStore (feedArguments [file]) .standard).outcome
        = (outputFor .text [feedResult file name]).mapError .output := by
  have hresults : runResults feedStore (feedArguments [file]) .standard
      = .ok [feedResult file name] := by
    refine (runResults_only feedStore (feedArguments []) .standard file).trans ?_
    rw [Except.toOption_eq_some_iff.mp h]
    rfl
  refine ⟨hresults, ?_⟩
  rw [outcome_runCheck, hresults]
  rfl

lemma checkAlone_fed : (checkAlone feedStore (feedArguments []) .standard "fed.json").toOption
    = some (feedResult "fed.json" "gain\nused") := by
  simp only [checkAlone, Comparison.outcome_compare_found]
  decide +kernel

lemma checkAlone_plain : (checkAlone feedStore (feedArguments []) .standard "plain.json").toOption
    = some (feedResult "plain.json" "gain used") := by
  simp only [checkAlone, Comparison.outcome_compare_found]
  decide +kernel

/-- **Not every output is laid out as intended.**  A line feed inside the name of an attribute starts
a line that belongs to nothing. -/
theorem not_laidOut_of_linefeed : ∃ checked output,
    runResults feedStore (feedArguments ["fed.json"]) .standard = .ok checked ∧
      (runCheck feedStore (feedArguments ["fed.json"]) .standard).outcome = .ok output ∧
      output.text = Text.ended [
        "fed.json: NOT compliant with table.csv: 1 violation(s)",
        "  FAIL: /how#gain",
        "used: present but not described by the standard",
        "Files: 0/1 compliant"] ∧
      ¬ LaidOut checked output.text := by
  obtain ⟨hresults, houtput⟩ := outcome_runCheck_feed checkAlone_fed
  refine ⟨_, _, hresults, houtput, by decide +kernel, fun hlaid => ?_⟩
  have hnames : ∀ c ∈ [feedResult "fed.json" "gain\nused"], SingleLine c.file.shown := by decide
  have hviolations := ((laidOut_textOutput_iff hnames).mp hlaid _ List.mem_cons_self).2
  exact absurd (hviolations _ List.mem_cons_self) (by decide +kernel)

/-- The two layouts: the name with a space in it is written on its line, and the one with a line feed
is not. -/
theorem laidOut_iff_of_runCheck_feed :
    (∃ checked output, runResults feedStore (feedArguments ["plain.json"]) .standard = .ok checked ∧
      (runCheck feedStore (feedArguments ["plain.json"]) .standard).outcome = .ok output ∧
      LaidOut checked output.text) ∧
    ∃ checked output, runResults feedStore (feedArguments ["fed.json"]) .standard = .ok checked ∧
      (runCheck feedStore (feedArguments ["fed.json"]) .standard).outcome = .ok output ∧
      ¬ LaidOut checked output.text := by
  constructor
  · obtain ⟨hresults, houtput⟩ := outcome_runCheck_feed checkAlone_plain
    obtain ⟨checked, hchecked, -, -, hiff⟩ := laidOut_iff_of_runCheck rfl (by decide) houtput
    cases hresults.symm.trans hchecked
    refine ⟨_, _, hresults, houtput, hiff.mpr fun c hc => ?_⟩
    cases List.mem_singleton.mp hc
    refine ⟨by decide, fun v hv l hl => ?_⟩
    cases List.mem_singleton.mp hv
    cases hl
    decide +kernel
  · obtain ⟨hresults, houtput⟩ := outcome_runCheck_feed checkAlone_fed
    obtain ⟨checked, hchecked, -, -, hiff⟩ := laidOut_iff_of_runCheck rfl (by decide) houtput
    cases hresults.symm.trans hchecked
    refine ⟨_, _, hresults, houtput, fun hlaid => ?_⟩
    have hviolations := (hiff.mp hlaid _ List.mem_cons_self).2
    exact absurd (hviolations _ List.mem_cons_self _ rfl) (by decide +kernel)

end RadarConform
