import RadarConform.Proofs.Table.Loading
import RadarConform.Proofs.Table.Naming
import RadarConform.Proofs.Text.Trim
import RadarConform.Table.Locator

/-!
# The table that a layout asks for

A layout asks for a table by a revision and a product.  Both go into the name of the table's file,
and loading the file takes them from there again.  The product may be any text, but a name is taken
apart at underscores and slashes.

* `RuleTable.BelongsTo` — a table of a revision and a product.
* `TableLocator.ReadsBack` — what a layout asks for is what it gets.
* `TableLocator.readsBack_iff_of_resolve` — **this is so exactly for products without underscores
  and slashes**, for the name as well as for every table that the file may hold.
* `TableLocator.not_readsBack_underscore` — a product with an underscore: its table tells neither
  revision nor product.
-/

namespace RadarConform

/-- A table of a revision and a product: it states both, and every rule is stamped. -/
structure RuleTable.BelongsTo (table : RuleTable) (version : Version) (product : String) :
    Prop where
  version_eq : table.version = some version
  product_eq : table.product = some product
  stamped : ∀ rule ∈ table.rules, rule.version = some version

/-- A name of a family without slashes is read back exactly when its product has neither an underscore
nor a slash. -/
lemma TableName.ofPath?_join_iff (directory : FilePath) {n : TableName} (hne : n.family ≠ "")
    (hfamily : '/' ∉ n.family.toList) (hproduct : n.product ≠ "") :
    TableName.ofPath? (FilePath.join directory n.fileName) = some n ↔
      '_' ∉ n.product.toList ∧ '/' ∉ n.product.toList := by
  rw [TableName.ofPath?_join_iff_wellFormed]
  constructor
  · intro h
    exact ⟨h.underscore_notMem_product, h.slash_notMem_product⟩
  · rintro ⟨hunderscore, hslash⟩
    exact ⟨hne, hfamily, hproduct, hunderscore, hslash⟩

/-- A table belongs to the revision and product that the name of its file tells, and to no other. -/
lemma RuleTable.belongsTo_iff_of_load {store : FileStore} {path : FilePath} {table : RuleTable}
    (h : (RuleTable.load store path).outcome = .ok table) (version : Version) (product : String) :
    table.BelongsTo version product ↔
      ∃ family, TableName.ofPath? path = some { family, version, product } := by
  obtain ⟨text, parsed, -, hparsed, rfl⟩ := RuleTable.load_eq_ok_iff.mp h
  obtain ⟨_, _, _, _, rules, -, -, -, -, rfl⟩ := RuleTable.parse_eq_ok_iff.mp hparsed
  cases hname : TableName.ofPath? path with
  | none =>
      constructor
      · intro hbelongs
        cases hbelongs.version_eq
      · rintro ⟨_, heq⟩
        cases heq
  | some name =>
      rw [hname] at hparsed
      constructor
      · intro hbelongs
        cases hbelongs.version_eq
        cases hbelongs.product_eq
        exact ⟨name.family, rfl⟩
      · rintro ⟨family, heq⟩
        cases heq
        exact ⟨rfl, rfl, fun rule hrule => RuleTable.version_of_parse hparsed hrule⟩

namespace Layout

lemma ne_empty_of_product {l : Layout} {product : String} (h : l.product = some product) :
    product ≠ "" := by
  obtain ⟨text, -, h⟩ := Option.bind_eq_some_iff.mp h
  split at h
  · cases h
  · next hblank =>
      cases h
      intro hempty
      rw [Text.trimmed, ← String.toList_inj, String.toList_ofList] at hempty
      exact hblank (List.all_eq_true.mpr (Text.trim_eq_nil_iff.mp hempty))

end Layout

namespace TableLocator

open FilePath (slash point)

variable {l : TableLocator} {layout : Layout} {override : Option Version} {path : FilePath}

/-- The path of the table for a layout, as it is put together. -/
lemma resolve_eq_ok_iff : (l.resolve layout override).outcome = .ok path ↔
    ∃ version product, (override <|> layout.declaredVersion) = some version ∧
      layout.product = some product ∧
      FilePath.join l.directory { family := l.family, version, product : TableName }.fileName
        = path := by
  rw [resolve]
  cases override <|> layout.declaredVersion with
  | none => simp
  | some version =>
      cases layout.product with
      | none => simp
      | some product => simp

/-- The path of a table is not that of a directory, whatever the product is. -/
lemma endsAsDirectory_of_resolve (h : (l.resolve layout override).outcome = .ok path) :
    FileStore.endsAsDirectory path = false := by
  obtain ⟨version, product, -, -, rfl⟩ := resolve_eq_ok_iff.mp h
  obtain ⟨before, hjoin, -⟩ := FilePath.exists_units_join l.directory
    { family := l.family, version, product : TableName }.fileName
  have hfree := Text.free_of_notMem (show slash ∉ TableName.ending by decide)
  obtain ⟨ps, p, -, hpieces⟩ := Text.exists_pieces_append_of_free
    (before ++ { family := l.family, version, product : TableName }.stem.map .char) hfree
  have hlong := TableName.append_ending_ne p
  rw [FileStore.endsAsDirectory, hjoin, TableName.units_fileName, ← List.append_assoc, hpieces]
  simp [hlong.1, hlong.2]

/-- **The table that a layout asks for is the one it gets** exactly when its product has neither an
underscore nor a slash: the name is then read back, and every table of that file belongs to the
revision and product that it was chosen for.  Of another product, no table ever does. -/
theorem readsBack_iff_of_resolve (hne : l.family ≠ "") (hfamily : '/' ∉ l.family.toList)
    (h : (l.resolve layout override).outcome = .ok path) :
    ∃ version product, (override <|> layout.declaredVersion) = some version ∧
      layout.product = some product ∧
      (TableName.ofPath? path = some { family := l.family, version, product } ↔
        '_' ∉ product.toList ∧ '/' ∉ product.toList) ∧
      ∀ store table, (RuleTable.load store path).outcome = .ok table →
        (table.BelongsTo version product ↔ '_' ∉ product.toList ∧ '/' ∉ product.toList) := by
  obtain ⟨version, product, hversion, hproduct, rfl⟩ := resolve_eq_ok_iff.mp h
  have hname := TableName.ofPath?_join_iff l.directory
    (n := { family := l.family, version, product }) hne hfamily
    (Layout.ne_empty_of_product hproduct)
  refine ⟨version, product, hversion, hproduct, hname, fun store table htable => ?_⟩
  rw [RuleTable.belongsTo_iff_of_load htable]
  constructor
  · rintro ⟨family, hfamily⟩
    exact TableName.notMem_product_of_ofPath? hfamily
  · intro hfree
    exact ⟨l.family, hname.mpr hfree⟩

/-- What a layout asks for is what it gets, whatever its product is: the name of the table tells the
revision and product that it was chosen for, and so does every table of that file. -/
def ReadsBack (l : TableLocator) (layout : Layout) (override : Option Version) : Prop :=
  ∀ path version product, (l.resolve layout override).outcome = .ok path →
    (override <|> layout.declaredVersion) = some version → layout.product = some product →
      TableName.ofPath? path = some { family := l.family, version, product } ∧
        ∀ store table, (RuleTable.load store path).outcome = .ok table →
          table.BelongsTo version product

/-! ## Two products -/

/-- A layout of revision 2.1 with a product. -/
def productLayout (product : String) : Layout where
  nodes := [
    { location := .ofAttribute [] "Conventions", value := some (.text "ODIM_H5/V2_1"),
      implied := false },
    { location := .ofAttribute ["what"] "object", value := some (.text product), implied := false }]

/-- Neither points nor blanks within the product do any harm. -/
theorem readsBack_iff_of_resolve_pointed :
    ∃ path,
      ((ofDirectory "data").resolve (productLayout " .QC v1.0.csv ") none).outcome = .ok path ∧
      TableName.ofPath? path
        = some { family := "ODIM_H5", version := ⟨2, 1⟩, product := ".QC v1.0.csv" } := by
  have hresolve : ((ofDirectory "data").resolve (productLayout " .QC v1.0.csv ") none).outcome
      = .ok "data/ODIM_H5_V2_1_.QC v1.0.csv.csv" := by
    rw [← Except.toOption_eq_some_iff]
    decide +kernel
  obtain ⟨version, product, hversion, hproduct, hname, -⟩ :=
    readsBack_iff_of_resolve (by decide) (by decide) hresolve
  have hdeclared : (none <|> (productLayout " .QC v1.0.csv ").declaredVersion) = some ⟨2, 1⟩ := by
    decide +kernel
  have hnamed : (productLayout " .QC v1.0.csv ").product = some ".QC v1.0.csv" := by decide +kernel
  cases hversion.symm.trans hdeclared
  cases hproduct.symm.trans hnamed
  exact ⟨_, hresolve, hname.mpr (by decide)⟩

/-- **A product with an underscore is not read back.** -/
theorem not_readsBack_underscore :
    ¬ (ofDirectory "data").ReadsBack (productLayout "VP_QC") none := by
  intro h
  have hresolve : ((ofDirectory "data").resolve (productLayout "VP_QC") none).outcome
      = .ok "data/ODIM_H5_V2_1_VP_QC.csv" := by
    rw [← Except.toOption_eq_some_iff]
    decide +kernel
  obtain ⟨hname, -⟩ := h _ ⟨2, 1⟩ "VP_QC" hresolve (by decide +kernel) (by decide +kernel)
  exact (TableName.notMem_product_of_ofPath? hname).1 (by decide)

/-- A product that looks like the end of a name is taken for one. -/
example : TableName.ofPath? "data/ODIM_H5_V2_1_X_V3_4_SCAN.csv"
    = some { family := "ODIM_H5_V2_1_X", version := ⟨3, 4⟩, product := "SCAN" } := by
  decide +kernel

end TableLocator

end RadarConform
