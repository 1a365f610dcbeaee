import RadarConform.Command.Check
import RadarConform.Proofs.FileStore
import RadarConform.Proofs.Table.Resolution

/-!
# Tables that files share

A run loads every table once, and finds it again under every path that is the same.  What it finds
is what loading the path would give, as long as the spellings of one path are read alike.  A system
that limits the length of paths reads some spellings and others not; a run meets no such pair unless
two of its files ask for it.

* `TablesReadAlike` — that the spellings of one path under which a run looks for tables lead to one
  file; `tablesReadAlike_of_readsNames`, `tablesReadAlike_only`.
* `LoadedTables.Fresh`, `LoadedTables.load_of_fresh` — the invariant of the loaded tables, and what
  it is for.
* `checkAlone` — the check of one file by itself; `ne_output_of_checkAlone`: it prints nothing.
* `checkFile_of_fresh`, `outcome_checkFiles` — one step, and **the whole run, file by file**.
-/

namespace RadarConform

variable {store : FileStore} {a : Arguments} {settings : Settings}

/-! ## Paths of tables -/

/-- A path that a run looks for a table under: one that it chooses for a file. -/
def TablePath (store : FileStore) (a : Arguments) (settings : Settings) (path : FilePath) : Prop :=
  ∃ file ∈ a.files, ∃ layout, (Layout.load store file).outcome = .ok layout ∧
    (chooseTable a (settings.locator a.tablesDirectory) layout).outcome = .ok path

/-- The paths of tables that are the same are read alike. -/
def TablesReadAlike (store : FileStore) (a : Arguments) (settings : Settings) : Prop :=
  ∀ path other, TablePath store a settings path → TablePath store a settings other →
    FilePath.same path other = true → store.read path = store.read other

/-- A table is given, or its path is not that of a directory. -/
lemma endsAsDirectory_of_chooseTable {locator : TableLocator} {layout : Layout} {path : FilePath}
    (h : (chooseTable a locator layout).outcome = .ok path) :
    a.table = some path ∨ (a.table = none ∧ FileStore.endsAsDirectory path = false) := by
  rw [chooseTable] at h
  split at h
  · next given hgiven =>
      cases h
      exact .inl hgiven
  · next hnone => exact .inr ⟨hnone, TableLocator.endsAsDirectory_of_resolve h⟩

/-- Where only the names of a path count, the paths of tables are read alike. -/
lemma tablesReadAlike_of_readsNames (hstore : store.ReadsNames) (a : Arguments)
    (settings : Settings) : TablesReadAlike store a settings := by
  rintro path other ⟨_, -, _, -, hpath⟩ ⟨_, -, _, -, hother⟩ hsame
  -- A table that is given is looked for under one path only; the others are no directories.
  rcases endsAsDirectory_of_chooseTable hpath with hpath | ⟨hnone, hpath⟩
  · rcases endsAsDirectory_of_chooseTable hother with hother | ⟨hnone, -⟩
    · cases hpath.symm.trans hother
      rfl
    · cases hpath.symm.trans hnone
  · rcases endsAsDirectory_of_chooseTable hother with hother | ⟨-, hother⟩
    · cases hnone.symm.trans hother
    · exact hstore path other hsame hpath hother

/-- The same arguments for one file only. -/
def Arguments.only (a : Arguments) (file : FilePath) : Arguments := { a with files := [file] }

/-- A run on one file looks for one table. -/
lemma tablesReadAlike_only (store : FileStore) (a : Arguments) (settings : Settings)
    (file : FilePath) : TablesReadAlike store (a.only file) settings := by
  rintro path other ⟨f, hf, layout, hlayout, hpath⟩ ⟨g, hg, layout', hlayout', hother⟩ -
  cases List.mem_singleton.mp hf
  cases List.mem_singleton.mp hg
  cases hlayout.symm.trans hlayout'
  cases hpath.symm.trans hother
  rfl

/-- Loading a table gives the same under every path that is the same. -/
lemma RuleTable.load_of_same (halike : TablesReadAlike store a settings) {path other : FilePath}
    (hsame : FilePath.same path other = true) (hpath : TablePath store a settings path)
    (hother : TablePath store a settings other) {table : RuleTable}
    (h : (RuleTable.load store other).outcome = .ok table) :
    (RuleTable.load store path).outcome = .ok table := by
  obtain ⟨text, parsed, hread, hparsed, htable⟩ := RuleTable.load_eq_ok_iff.mp h
  rw [← TableName.ofPath?_eq_of_same hsame] at hparsed htable
  refine RuleTable.load_eq_ok_iff.mpr ⟨text, parsed, ?_, ?_, htable⟩
  · rw [halike path other hpath hother hsame, hread]
  · exact RuleTable.parse_of_parse hparsed path.shown

/-! ## Loaded tables -/

/-- Every table is what its path would give if it were loaded again. -/
def LoadedTables.Fresh (tables : LoadedTables) (store : FileStore) (a : Arguments)
    (settings : Settings) : Prop :=
  ∀ path table, (path, table) ∈ tables →
    TablePath store a settings path ∧ (RuleTable.load store path).outcome = .ok table

namespace LoadedTables

variable {tables : LoadedTables} {path : FilePath}

lemma fresh_nil (store : FileStore) (a : Arguments) (settings : Settings) :
    Fresh [] store a settings := nofun

/-- What is found among the loaded tables is what loading it afresh would give. -/
lemma load_of_find? (halike : TablesReadAlike store a settings)
    (htables : tables.Fresh store a settings) (hpath : TablePath store a settings path)
    {other : FilePath} {table : RuleTable}
    (h : tables.find? (FilePath.same path ·.1) = some (other, table)) :
    (RuleTable.load store path).outcome = .ok table := by
  obtain ⟨hother, hload⟩ := htables other table (List.mem_of_find?_eq_some h)
  have hsame := List.find?_some h
  exact RuleTable.load_of_same halike hsame hpath hother hload

/-- **Sharing tables changes no table**: the outcome is that of loading afresh, and the tables stay
fresh. -/
lemma load_of_fresh (halike : TablesReadAlike store a settings)
    (htables : tables.Fresh store a settings) (hpath : TablePath store a settings path) :
    (∃ e, (RuleTable.load store path).outcome = .error e ∧
        (tables.load store path).outcome = .error e) ∨
      ∃ table later, (RuleTable.load store path).outcome = .ok table ∧
        (tables.load store path).outcome = .ok (table, later) ∧ later.Fresh store a settings := by
  rw [LoadedTables.load]
  cases hfind : tables.find? (FilePath.same path ·.1) with
  | some entry =>
      exact .inr ⟨entry.2, tables, load_of_find? halike htables hpath hfind, rfl, htables⟩
  | none =>
      rw [Logged.outcome_bind]
      cases hload : (RuleTable.load store path).outcome with
      | error e => exact .inl ⟨e, rfl, rfl⟩
      | ok table =>
          refine .inr ⟨table, (path, table) :: tables, rfl, rfl, fun p t hmem => ?_⟩
          rcases List.mem_cons.mp hmem with heq | hmem
          · cases heq
            exact ⟨hpath, hload⟩
          · exact htables p t hmem

end LoadedTables

/-! ## One file -/

section

variable {tables : LoadedTables}

/-- The check of one file by itself, for which its table is loaded. -/
def checkAlone (store : FileStore) (a : Arguments) (settings : Settings) (file : FilePath) :
    Except CommandError CheckedFile := do
  let layout ← (Layout.load store file).outcome.mapError (.layout file.shown)
  let path ← (chooseTable a (settings.locator a.tablesDirectory) layout).outcome.mapError
    (.choice file.shown)
  let table ← (RuleTable.load store path).outcome.mapError (.table file.shown)
  let report ← (compare layout table (settings.options a)).outcome.mapError
    (.comparison file.shown path.shown)
  return { file, table := path, report }

lemma outcome_reportVersions (file : FilePath) (layout : Layout) (table : RuleTable) :
    (reportVersions a file layout table).outcome = .ok () := by
  rw [reportVersions]
  split <;> rfl

/-- The steps of the check of one file, without what they report. -/
lemma outcome_checkFile (store : FileStore) (a : Arguments) (settings : Settings)
    (tables : LoadedTables) (file : FilePath) :
    (checkFile store a settings tables file).outcome = (do
      let layout ← (Layout.load store file).outcome.mapError (.layout file.shown)
      let path ← (chooseTable a (settings.locator a.tablesDirectory) layout).outcome.mapError
        (.choice file.shown)
      let (table, later) ← (tables.load store path).outcome.mapError (.table file.shown)
      let report ← (compare layout table (settings.options a)).outcome.mapError
        (.comparison file.shown path.shown)
      return ({ file, table := path, report }, later)) := by
  simp only [checkFile, Logged.outcome_bind, Logged.outcome_mapError, Logged.outcome_report,
    Logged.outcome_pure, outcome_reportVersions, Except.bind_ok]
  rfl

/-- **Checking a file with loaded tables is checking it by itself**, and the tables stay fresh. -/
lemma checkFile_of_fresh (halike : TablesReadAlike store a settings)
    (htables : tables.Fresh store a settings) {file : FilePath} (hfile : file ∈ a.files) :
    (∃ e, checkAlone store a settings file = .error e ∧
        (checkFile store a settings tables file).outcome = .error e) ∨
      ∃ checked later, checkAlone store a settings file = .ok checked ∧
        (checkFile store a settings tables file).outcome = .ok (checked, later) ∧
        later.Fresh store a settings := by
  rw [checkAlone, outcome_checkFile]
  cases hlayout : (Layout.load store file).outcome with
  | error e => exact .inl ⟨_, rfl, rfl⟩
  | ok layout =>
      simp only [Except.mapError_ok, Except.ok_bind]
      cases hpath : (chooseTable a (settings.locator a.tablesDirectory) layout).outcome with
      | error e => exact .inl ⟨_, rfl, rfl⟩
      | ok path =>
          simp only [Except.mapError_ok, Except.ok_bind]
          rcases LoadedTables.load_of_fresh halike htables ⟨file, hfile, layout, hlayout, hpath⟩ with
            ⟨e, halone, hshared⟩ | ⟨table, later, halone, hshared, hlater⟩
          · rw [halone, hshared]
            exact .inl ⟨_, rfl, rfl⟩
          · rw [halone, hshared]
            simp only [Except.mapError_ok, Except.ok_bind]
            cases (compare layout table (settings.options a)).outcome with
            | error e => exact .inl ⟨_, rfl, rfl⟩
            | ok report => exact .inr ⟨_, later, rfl, rfl, hlater⟩

/-- **Checking files one after the other is checking every one by itself**, whatever is loaded. -/
lemma outcome_checkFiles (halike : TablesReadAlike store a settings)
    (htables : tables.Fresh store a settings) {files : List FilePath}
    (hfiles : ∀ f ∈ files, f ∈ a.files) :
    (checkFiles store a settings tables files).outcome
      = files.mapM (checkAlone store a settings) := by
  -- The tables grow from file to file, so the statement is for all that are fresh.
  induction files generalizing tables with
  | nil => rfl
  | cons file rest ih =>
      obtain ⟨hfile, hrest⟩ := List.forall_mem_cons.mp hfiles
      rw [checkFiles, Logged.outcome_bind, List.mapM_cons]
      rcases checkFile_of_fresh halike htables hfile with
        ⟨e, halone, hshared⟩ | ⟨checked, later, halone, hshared, hlater⟩
      · rw [halone, hshared]
        rfl
      · rw [halone, hshared, Except.bind_ok, Except.ok_bind, Logged.outcome_bind, ih hlater hrest]
        rfl

variable {file : FilePath} {c : CheckedFile} {error : CommandError}

lemma file_of_checkAlone (h : checkAlone store a settings file = .ok c) : c.file = file := by
  obtain ⟨layout, -, h⟩ := Except.bind_eq_ok_iff.mp h
  obtain ⟨path, -, h⟩ := Except.bind_eq_ok_iff.mp h
  obtain ⟨table, -, h⟩ := Except.bind_eq_ok_iff.mp h
  obtain ⟨report, -, h⟩ := Except.bind_eq_ok_iff.mp h
  cases h
  rfl

/-- Checking a file prints nothing, so it cannot fail at that. -/
lemma ne_output_of_checkAlone (h : checkAlone store a settings file = .error error)
    (fault : OutputFault) : error ≠ .output fault := by
  rintro rfl
  simp only [checkAlone, Except.bind_eq_error_iff, Except.mapError_eq_error_iff] at h
  rcases h with ⟨_, -, h⟩ | ⟨layout, -, ⟨_, -, h⟩ | ⟨path, -, ⟨_, -, h⟩ | ⟨table, -, h⟩⟩⟩
  · cases h
  · cases h
  · cases h
  · rcases h with ⟨_, -, h⟩ | ⟨report, -, h⟩
    · cases h
    · cases h

end

end RadarConform
