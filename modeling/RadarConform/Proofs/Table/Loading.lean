import RadarConform.Proofs.Table.Row

/-!
# What loading a table depends on

A table is read line by line, and the path of its file is only there to be named in errors.  So a
table that is read at all is the same under every path, and the revision that it is read for stands
in every rule.

* `Columns.ofHeader_eq_ok_iff`, `rulesOfLines_eq_ok_iff` — header and rows, without the path;
  `Columns.ofHeader_eq_error_iff`, `rulesOfLines_eq_error_iff` — their first fault.
* `RuleTable.ReadsRecords`, `RuleTable.parse_eq_iff` — **the five ways in which a table is read**.
* `RuleTable.parse_eq_ok_iff` — **a text is a table** exactly when its header names the columns and
  every row is a rule.
* `RuleTable.parse_of_parse` — the path does not matter.
* `RuleTable.exists_row_of_parse`, `RuleTable.version_of_parse`, `RuleTable.normal_of_parse` — every
  rule stands in a row, is stamped, and has a normal location.
* `RuleTable.load_eq_ok_iff` — a file is a table exactly when its text is one.
* `RuleTable.version_of_load`, `RuleTable.rule_version_of_load` — the revision that is stamped on
  the rules and the one that is put on the table afterwards are that of the name.
-/

namespace RadarConform

/-! ## Header and rows -/

lemma Columns.require_eq_ok_iff {path name : String} {header : List String} {i : Nat} :
    Columns.require path header name = .ok i ↔ Columns.find? header name = some i := by
  rw [Columns.require]
  cases Columns.find? header name with
  | none => exact ⟨nofun, nofun⟩
  | some j =>
      constructor
      · intro h
        cases h
        rfl
      · intro h
        cases h
        rfl

/-- The columns that a header must have. -/
def Columns.Named (c : Columns) (header : List String) : Prop :=
  Columns.find? header "Node" = some c.node ∧ Columns.find? header "Category" = some c.category ∧
    Columns.find? header "Type" = some c.valueType ∧
    Columns.find? header "IsMandatory" = some c.mandatory ∧
    Columns.find? header "PossibleValues" = some c.values ∧
    Columns.find? header "Description" = c.description

lemma Columns.ofHeader_eq_ok_iff {path : String} {header : List String} {c : Columns} :
    Columns.ofHeader path header = .ok c ↔ c.Named header := by
  simp only [Columns.ofHeader, Except.bind_eq_ok_iff, Columns.require_eq_ok_iff, Columns.Named]
  constructor
  · rintro ⟨_, hnode, _, hcategory, _, htype, _, hmandatory, _, hvalues, h⟩
    cases h
    exact ⟨hnode, hcategory, htype, hmandatory, hvalues, rfl⟩
  · rintro ⟨hnode, hcategory, htype, hmandatory, hvalues, hdescription⟩
    refine ⟨_, hnode, _, hcategory, _, htype, _, hmandatory, _, hvalues, ?_⟩
    rw [hdescription]
    rfl

/-- The columns that every table must have. -/
def Columns.required : List String :=
  ["Node", "Category", "Type", "IsMandatory", "PossibleValues"]

/-- The first of some columns that a header does not name. -/
def Columns.firstMissing? (header names : List String) : Option String :=
  names.find? fun name => (Columns.find? header name).isNone

/-- One more column: either it is missing or the error is that of the later ones. -/
lemma Columns.require_bind_eq_error_iff {path name : String} {header names : List String}
    {α : Type} {f : Nat → Except TableError α} {e : TableError}
    (h : ∀ i, f i = .error e ↔
      ∃ other, firstMissing? header names = some other ∧ .missingColumn path other = e) :
    (Columns.require path header name >>= f) = .error e ↔
      ∃ other, firstMissing? header (name :: names) = some other ∧
        .missingColumn path other = e := by
  rw [Columns.require, firstMissing?, List.find?_cons]
  cases Columns.find? header name with
  | none => simp [bind, Except.bind]
  | some i => exact h i

/-- A header is at fault when a column is missing, and the error names the first one. -/
lemma Columns.ofHeader_eq_error_iff {path : String} {header : List String} {e : TableError} :
    Columns.ofHeader path header = .error e ↔
      ∃ name, firstMissing? header required = some name ∧ .missingColumn path name = e := by
  rw [Columns.ofHeader]
  refine require_bind_eq_error_iff fun node => require_bind_eq_error_iff fun category =>
    require_bind_eq_error_iff fun valueType => require_bind_eq_error_iff fun mandatory =>
      require_bind_eq_error_iff fun values => ?_
  constructor
  · nofun
  · rintro ⟨_, h, -⟩
    cases h

variable {path : String} {columns : Columns} {version : Option Version}

/-- The rows of a table are read one by one, from the first to the last. -/
lemma rulesOfLines_eq_mapM (rows : List (Nat × List Char)) :
    rulesOfLines path columns version rows =
      rows.mapM fun row => (ruleOfLine columns version row.2).mapError (.row path row.1) := by
  induction rows with
  | nil => rfl
  | cons row rest ih =>
      obtain ⟨n, line⟩ := row
      rw [rulesOfLines, List.mapM_cons, ih]

/-- The rows of a table are read exactly when every one of them is. -/
lemma rulesOfLines_eq_ok_iff {rows : List (Nat × List Char)} {rules : List Rule} :
    rulesOfLines path columns version rows = .ok rules ↔
      List.Forall₂ (fun row rule => ruleOfLine columns version row.2 = .ok rule) rows rules := by
  simp only [rulesOfLines_eq_mapM, Except.mapM_eq_ok_iff, Except.mapError_eq_ok_iff]

/-- The error of some rows is that of the first row at fault, with its number. -/
lemma rulesOfLines_eq_error_iff {rows : List (Nat × List Char)} {e : TableError} :
    rulesOfLines path columns version rows = .error e ↔
      ∃ before n line after fault, rows = before ++ (n, line) :: after ∧
        (∀ row ∈ before, ∃ rule, ruleOfLine columns version row.2 = .ok rule) ∧
        ruleOfLine columns version line = .error fault ∧ .row path n fault = e := by
  simp only [rulesOfLines_eq_mapM, Except.mapM_eq_error_iff, Except.mapError_eq_ok_iff,
    Except.mapError_eq_error_iff]
  constructor
  · rintro ⟨before, ⟨n, line⟩, after, hrows, hbefore, fault, hfault, he⟩
    exact ⟨before, n, line, after, fault, hrows, hbefore, hfault, he⟩
  · rintro ⟨before, n, line, after, fault, hrows, hbefore, hfault, he⟩
    exact ⟨before, (n, line), after, hrows, hbefore, fault, hfault, he⟩

namespace RuleTable

/-! ## Texts -/

variable {text : String} {table : RuleTable}

/-- How a table is read from its records. -/
inductive ReadsRecords (path : String) (version : Option Version) :
    List (Nat × List Char) → Except TableError RuleTable → Prop
  | empty : ReadsRecords path version [] (.error (.empty path))
  | header {n : Nat} {line : List Char} {rows : List (Nat × List Char)} {fault : Record.Fault} :
      Record.split line = .error fault →
      ReadsRecords path version ((n, line) :: rows) (.error (.row path n (.record fault)))
  | column {header : Nat × List Char} {rows : List (Nat × List Char)} {fields : List String}
      {name : String} : Record.split header.2 = .ok fields →
      Columns.firstMissing? fields Columns.required = some name →
      ReadsRecords path version (header :: rows) (.error (.missingColumn path name))
  | row {header : Nat × List Char} {before after : List (Nat × List Char)} {fields : List String}
      {columns : Columns} {n : Nat} {line : List Char} {fault : RowFault} :
      Record.split header.2 = .ok fields → columns.Named fields →
      (∀ row ∈ before, ∃ rule, ruleOfLine columns version row.2 = .ok rule) →
      ruleOfLine columns version line = .error fault →
      ReadsRecords path version (header :: (before ++ (n, line) :: after))
        (.error (.row path n fault))
  | table {header : Nat × List Char} {rows : List (Nat × List Char)} {fields : List String}
      {columns : Columns} {rules : List Rule} :
      Record.split header.2 = .ok fields → columns.Named fields →
      List.Forall₂ (fun row rule => ruleOfLine columns version row.2 = .ok rule) rows rules →
      ReadsRecords path version (header :: rows)
        (.ok { version := none, product := none, rules })

variable {r : Except TableError RuleTable}

lemma ReadsRecords.parse_eq (h : ReadsRecords path version (recordLines text) r) :
    RuleTable.parse text path version = r := by
  rw [RuleTable.parse]
  generalize recordLines text = records at h
  cases h with
  | empty => rfl
  | header hsplit =>
      simp only [hsplit]
      rfl
  | @column _ _ fields name hsplit hmissing =>
      have hheader : Columns.ofHeader path fields = .error (.missingColumn path name) :=
        Columns.ofHeader_eq_error_iff.mpr ⟨name, hmissing, rfl⟩
      simp only [hsplit, Except.mapError_ok, Except.ok_bind, hheader]
      rfl
  | @row header before after fields columns n line fault hsplit hnamed hbefore hfault =>
      have hrows : rulesOfLines path columns version (before ++ (n, line) :: after)
          = .error (.row path n fault) :=
        rulesOfLines_eq_error_iff.mpr ⟨before, n, line, after, fault, rfl, hbefore, hfault, rfl⟩
      simp only [hsplit, Except.mapError_ok, Except.ok_bind, Columns.ofHeader_eq_ok_iff.mpr hnamed,
        hrows]
      rfl
  | table hsplit hnamed hrules =>
      simp only [hsplit, Except.mapError_ok, Except.ok_bind, Columns.ofHeader_eq_ok_iff.mpr hnamed,
        rulesOfLines_eq_ok_iff.mpr hrules]
      rfl

/-- Some records are read in one of the five ways. -/
lemma exists_readsRecords (path : String) (version : Option Version)
    (records : List (Nat × List Char)) : ∃ r, ReadsRecords path version records r := by
  cases records with
  | nil => exact ⟨_, .empty⟩
  | cons header rows =>
      cases hsplit : Record.split header.2 with
      | error fault => exact ⟨_, .header hsplit⟩
      | ok fields =>
          cases hheader : Columns.ofHeader path fields with
          | error e =>
              obtain ⟨name, hmissing, -⟩ := Columns.ofHeader_eq_error_iff.mp hheader
              exact ⟨_, .column hsplit hmissing⟩
          | ok columns =>
              have hnamed := Columns.ofHeader_eq_ok_iff.mp hheader
              cases hrows : rulesOfLines path columns version rows with
              | error e =>
                  obtain ⟨before, n, line, after, fault, rfl, hbefore, hfault, -⟩ :=
                    rulesOfLines_eq_error_iff.mp hrows
                  exact ⟨_, .row hsplit hnamed hbefore hfault⟩
              | ok rules => exact ⟨_, .table hsplit hnamed (rulesOfLines_eq_ok_iff.mp hrows)⟩

/-- **What a table is read as**, be it a table or an error. -/
lemma parse_eq_iff : RuleTable.parse text path version = r ↔
    ReadsRecords path version (recordLines text) r := by
  refine ⟨?_, ReadsRecords.parse_eq⟩
  rintro rfl
  obtain ⟨r, hr⟩ := exists_readsRecords path version (recordLines text)
  rwa [hr.parse_eq]

/-- **A text is a table** exactly when its first record names the columns and every other one is a
rule. -/
lemma parse_eq_ok_iff :
    RuleTable.parse text path version = .ok table ↔
      ∃ header rows fields columns rules, recordLines text = header :: rows ∧
        Record.split header.2 = .ok fields ∧ columns.Named fields ∧
        List.Forall₂ (fun row rule => ruleOfLine columns version row.2 = .ok rule) rows rules ∧
        { version := none, product := none, rules } = table := by
  rw [parse_eq_iff]
  constructor
  · intro h
    generalize hrecords : recordLines text = records at h
    cases h with
    | table hsplit hnamed hrules =>
        exact ⟨_, _, _, _, _, rfl, hsplit, hnamed, hrules, rfl⟩
  · rintro ⟨header, rows, fields, columns, rules, hrecords, hsplit, hnamed, hrules, rfl⟩
    rw [hrecords]
    exact .table hsplit hnamed hrules

/-- The path is named in errors only. -/
lemma parse_of_parse (h : RuleTable.parse text path version = .ok table) (other : String) :
    RuleTable.parse text other version = .ok table :=
  parse_eq_ok_iff.mpr (parse_eq_ok_iff.mp h)

/-- Every rule of a table stands in a row. -/
lemma exists_row_of_parse (h : RuleTable.parse text path version = .ok table) {rule : Rule}
    (hrule : rule ∈ table.rules) : ∃ row category, RowFields.Says row version category rule := by
  obtain ⟨_, _, _, _, rules, -, -, -, hrules, rfl⟩ := parse_eq_ok_iff.mp h
  obtain ⟨_, -, hline⟩ := exists_of_forall₂ hrules.flip hrule
  exact exists_row_of_ruleOfLine hline

/-- Every rule of a table carries the revision that the table was read for. -/
lemma version_of_parse (h : RuleTable.parse text path version = .ok table) {rule : Rule}
    (hrule : rule ∈ table.rules) : rule.version = version := by
  obtain ⟨_, _, hsays⟩ := exists_row_of_parse h hrule
  exact hsays.version_eq.symm

/-- Every location of a table is normal. -/
lemma normal_of_parse (h : RuleTable.parse text path version = .ok table) :
    ∀ rule ∈ table.rules, rule.location.Normal := by
  intro rule hrule
  obtain ⟨_, _, hsays⟩ := exists_row_of_parse h hrule
  exact hsays.normal

/-! ## Files -/

/-- **A file is a table** exactly when its text is one, for the revision that its name tells. -/
lemma load_eq_ok_iff {store : FileStore} {path : FilePath} :
    (RuleTable.load store path).outcome = .ok table ↔
      ∃ text parsed, store.read path = .ok text ∧
        RuleTable.parse text path.shown ((TableName.ofPath? path).map (·.version)) = .ok parsed ∧
        parsed.named (TableName.ofPath? path) = table := by
  simp only [RuleTable.load, Logged.outcome_bind, Logged.outcome_liftM, Logged.outcome_reportIf,
    Logged.outcome_report, Logged.outcome_pure, Except.bind_ok]
  cases hread : store.read path with
  | error e =>
      constructor
      · nofun
      · rintro ⟨_, _, h, -⟩
        cases h
  | ok text =>
      simp only [Except.mapError_ok, Except.bind_ok]
      constructor
      · intro h
        obtain ⟨parsed, hparsed, h⟩ := Except.bind_eq_ok_iff.mp h
        exact ⟨text, parsed, rfl, hparsed, Except.ok.inj h⟩
      · rintro ⟨_, parsed, htext, hparsed, rfl⟩
        cases htext
        rw [hparsed]
        rfl

variable {store : FileStore} {file : FilePath}

/-- A table as it is read from a text has no revision of its own. -/
lemma table_version_of_parse {text : String} {version : Option Version}
    (h : RuleTable.parse text path version = .ok table) : table.version = none := by
  obtain ⟨_, _, _, _, _, -, -, -, -, rfl⟩ := parse_eq_ok_iff.mp h
  rfl

/-- The revision of a table of a file is that of the name. -/
lemma version_of_load (h : (RuleTable.load store file).outcome = .ok table) :
    table.version = (TableName.ofPath? file).map (·.version) := by
  obtain ⟨text, parsed, -, hparsed, rfl⟩ := load_eq_ok_iff.mp h
  cases TableName.ofPath? file with
  | none => exact table_version_of_parse hparsed
  | some name => rfl

/-- The name changes the revision of the table and leaves the rules alone. -/
lemma rules_named (name : Option TableName) : (table.named name).rules = table.rules := by
  cases name with
  | none | some => rfl

/-- The rules of a table of a file carry the revision of the name. -/
lemma rule_version_of_load (h : (RuleTable.load store file).outcome = .ok table) {rule : Rule}
    (hrule : rule ∈ table.rules) :
    rule.version = (TableName.ofPath? file).map (·.version) := by
  obtain ⟨text, parsed, -, hparsed, rfl⟩ := load_eq_ok_iff.mp h
  rw [rules_named] at hrule
  exact version_of_parse hparsed hrule

/-- Every location of a table of a file is normal. -/
lemma normal_of_load (h : (RuleTable.load store file).outcome = .ok table) :
    ∀ rule ∈ table.rules, rule.location.Normal := by
  obtain ⟨text, parsed, -, hparsed, rfl⟩ := load_eq_ok_iff.mp h
  intro rule hrule
  rw [rules_named] at hrule
  exact normal_of_parse hparsed rule hrule

end RuleTable

end RadarConform
