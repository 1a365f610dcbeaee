import RadarConform.Proofs.Table.Resolution

/-!
# Tables stay in their directory

The path of a table is a name below the tables directory.  The layout chooses the product, which is a
part of that name, and a slash in it makes further names.

* `FilePath.components_join` — a path below a directory has the names of the directory, and then
  its own.
* `FilePath.IsEntry` — a path that names an entry of a directory.
* `TableName.isEntry_join_iff` — **the file of a table is an entry of the directory** exactly when
  its product has no slash.
* `TableLocator.isEntry_iff_of_resolve` — so is the table of a layout; of another product no name
  makes it one.
* `TableLocator.not_staysInside_parents` — a product that leads out of the directory.
-/

namespace RadarConform

namespace FilePath

/-! ## Names below a directory -/

/-- The names that a path adds to those of the directory that it is below. -/
def namesBelow (path : List RawUnit) : List (List RawUnit) :=
  ((Text.pieces (· == slash) path).filter (· ≠ [point])).filter (· ≠ [])

lemma components_append_slash (directory path : List RawUnit) :
    components (directory ++ slash :: path) = components directory ++ namesBelow path := by
  obtain ⟨first, rest, hpieces⟩ :=
    List.exists_cons_of_ne_nil (Text.pieces_ne_nil (· == slash) directory)
  rw [components, components, Text.pieces_append (by decide), hpieces]
  simp only [List.cons_append, List.filter_append, List.filter_cons, namesBelow]
  split <;> rfl

/-- A path by itself has the names that it adds to a directory, unless it starts with a lone
point. -/
lemma components_eq_namesBelow {path : List RawUnit}
    (h : (Text.pieces (· == slash) path).head? ≠ some [point]) :
    components path = namesBelow path := by
  obtain ⟨first, rest, hpieces⟩ := List.exists_cons_of_ne_nil (Text.pieces_ne_nil (· == slash) path)
  have hfirst : first ≠ [point] := by simpa [hpieces] using h
  simp [components, namesBelow, hpieces, hfirst]

variable {directory file : FilePath}

/-- **A path below a directory** has the names of the directory, and then its own. -/
lemma components_join (hstart : file.units.head? ≠ some slash)
    (hfirst : (Text.pieces (· == slash) file.units).head? ≠ some [point]) :
    components (join directory file).units =
      components directory.units ++ namesBelow file.units := by
  rw [join]
  split
  · next h =>
      rw [h.resolve_left hstart]
      exact components_eq_namesBelow hfirst
  · split
    · next hslash =>
        obtain ⟨l, hl⟩ := List.getLast?_eq_some_iff.mp hslash
        have hdirectory : components directory.units = components l := by
          rw [hl, components_append_slash]
          exact List.append_nil _
        rw [RawText.units_append, hl, List.append_assoc, List.singleton_append,
          components_append_slash, ← hdirectory, hl]
    · rw [RawText.units_append, RawText.units_append, List.append_assoc]
      exact components_append_slash _ _

/-- A path below a directory starts where the directory does. -/
lemma head?_join_eq_slash_iff (hstart : file.units.head? ≠ some slash) :
    (join directory file).units.head? = some slash ↔ directory.units.head? = some slash := by
  rw [join]
  split
  · next h =>
      simp [h.resolve_left hstart, hstart]
  · next h =>
      obtain ⟨u, units, hcons⟩ := List.exists_cons_of_ne_nil (not_or.mp h).2
      split <;> simp [hcons]

/-- A path that names an entry of a directory: it starts where the directory does, goes through the
names of the directory, and then has one name more, which does not lead elsewhere. -/
structure IsEntry (directory name path : FilePath) : Prop where
  rooted_iff : path.units.head? = some slash ↔ directory.units.head? = some slash
  components_eq : components path.units = components directory.units ++ [name.units]
  fileName?_eq : fileName? path = some name.units

end FilePath

namespace TableName

open FilePath

variable {n : TableName}

/-- The part of a name before the product. -/
def untilProduct (n : TableName) : List RawUnit := (n.untilMinor ++ ['_']).map .char

lemma units_fileName_eq (n : TableName) : (RawText.ofText n.fileName).units
    = n.untilProduct ++ ((RawText.ofText n.product).units ++ ending) := by
  rw [units_fileName]
  simp [stem, untilProduct, RawText.units_ofText]

lemma slash_notMem_untilProduct (hfamily : '/' ∉ n.family.toList) : slash ∉ n.untilProduct := by
  rw [untilProduct, List.mem_map_of_injective RawUnit.char_injective]
  simp [untilMinor, untilMajor, hfamily, Version.slash_notMem_digits]

lemma head?_fileName_ne (hfamily : '/' ∉ n.family.toList) :
    (RawText.ofText n.fileName).units.head? ≠ some slash := by
  have hslash := slash_notMem_untilProduct hfamily
  obtain ⟨u, units, hcons⟩ :=
    List.exists_cons_of_ne_nil (show n.untilProduct ≠ [] by simp [untilProduct])
  rw [units_fileName_eq, hcons, List.cons_append, List.head?_cons]
  rintro ⟨⟩
  exact hslash (hcons ▸ List.mem_cons_self)

/-- The pieces of a name are those of the product, between the part before it and the
extension. -/
lemma exists_pieces_fileName (hfamily : '/' ∉ n.family.toList) :
    ∃ ps p, Text.pieces (· == slash) (RawText.ofText n.product).units = ps ++ [p] ∧
      Text.pieces (· == slash) (RawText.ofText n.fileName).units =
        (ps ++ [p ++ ending]).modifyHead (n.untilProduct ++ ·) := by
  have hextension := Text.free_of_notMem (show slash ∉ ending by decide)
  obtain ⟨ps, p, hproduct, happend⟩ :=
    Text.exists_pieces_append_of_free (RawText.ofText n.product).units hextension
  refine ⟨ps, p, hproduct, ?_⟩
  rw [units_fileName_eq,
    Text.pieces_append_of_free (Text.free_of_notMem (slash_notMem_untilProduct hfamily)), happend]

/-- What stands before the product keeps the first piece of a name apart from the pieces that say
nothing. -/
lemma untilProduct_append_ne (n : TableName) (p : List RawUnit) :
    n.untilProduct ++ p ≠ [] ∧ n.untilProduct ++ p ≠ [point] := by
  have hmem : .char '_' ∈ n.untilProduct ++ p := by simp [untilProduct]
  constructor
  · intro h
    rw [h] at hmem
    revert hmem
    decide
  · intro h
    rw [h] at hmem
    revert hmem
    decide

/-- The file of a table has the names of the directory, and then its own. -/
lemma components_join_fileName (directory : FilePath) (hfamily : '/' ∉ n.family.toList) :
    components (join directory n.fileName).units =
      components directory.units ++ namesBelow (RawText.ofText n.fileName).units := by
  refine components_join (head?_fileName_ne hfamily) ?_
  obtain ⟨ps, p, -, hpieces⟩ := exists_pieces_fileName hfamily
  rw [hpieces]
  cases ps with
  | nil => simpa using (n.untilProduct_append_ne _).2
  | cons q qs => simpa using (n.untilProduct_append_ne q).2

lemma namesBelow_fileName (hfamily : '/' ∉ n.family.toList) (hproduct : '/' ∉ n.product.toList) :
    namesBelow (RawText.ofText n.fileName).units = [(RawText.ofText n.fileName).units] := by
  have hne := n.untilProduct_append_ne ((RawText.ofText n.product).units ++ ending)
  have hslash := slash_notMem_fileName hfamily hproduct
  rw [← units_fileName_eq] at hne
  rw [namesBelow,
    Text.pieces_of_free (Text.free_of_notMem (mt RawText.char_mem_units_ofText.mp hslash))]
  simp [hne.1, hne.2]

/-- A slash in the product makes a second name: the extension ends one, and what stands before the
product starts another. -/
lemma two_le_length_namesBelow (hfamily : '/' ∉ n.family.toList) (hproduct : '/' ∈ n.product.toList) :
    2 ≤ (namesBelow (RawText.ofText n.fileName).units).length := by
  obtain ⟨ps, p, hproductPieces, hpieces⟩ := exists_pieces_fileName hfamily
  cases ps with
  | nil =>
      have hfree := (Text.pieces_eq_singleton_iff.mp hproductPieces).2 slash
        (RawText.char_mem_units_ofText.mpr hproduct)
      cases hfree
  | cons q qs =>
      have hfirst := n.untilProduct_append_ne q
      have hlast := append_ending_ne p
      simp only [namesBelow, hpieces, List.cons_append, List.modifyHead_cons, List.filter_cons,
        List.filter_append, List.filter_nil, ne_eq, hfirst.1, hfirst.2, hlast.1, hlast.2,
        not_false_eq_true, decide_true, if_true, List.length_cons, List.length_append,
        List.length_nil]
      omega

/-- A file of a table that is an entry of the directory, under whichever name, has a product without
a slash. -/
lemma slash_notMem_of_isEntry {directory name : FilePath} (hfamily : '/' ∉ n.family.toList)
    (h : IsEntry directory name (join directory n.fileName)) : '/' ∉ n.product.toList := by
  intro hproduct
  have heq := h.components_eq
  rw [components_join_fileName directory hfamily, List.append_cancel_left_eq] at heq
  have hlength := two_le_length_namesBelow hfamily hproduct
  rw [heq, List.length_singleton] at hlength
  omega

/-- **The file of a table is an entry of the directory** exactly when its product has no slash. -/
lemma isEntry_join_iff (directory : FilePath) (hfamily : '/' ∉ n.family.toList) :
    IsEntry directory n.fileName (join directory n.fileName) ↔ '/' ∉ n.product.toList := by
  constructor
  · exact slash_notMem_of_isEntry hfamily
  · intro hproduct
    exact {
      rooted_iff := head?_join_eq_slash_iff (head?_fileName_ne hfamily)
      components_eq := by
        rw [components_join_fileName directory hfamily, namesBelow_fileName hfamily hproduct]
      fileName?_eq := TableName.fileName?_below directory hfamily hproduct }

end TableName

namespace TableLocator

open FilePath

variable {l : TableLocator} {layout : Layout} {override : Option Version} {path : FilePath}

/-- **The table of a layout is an entry of the tables directory**, under the name that is made of the
family, the revision and the product, exactly when the product has no slash.  The path of another
product leads through further directories, so no name at all makes it an entry. -/
theorem isEntry_iff_of_resolve (hfamily : '/' ∉ l.family.toList)
    (h : (l.resolve layout override).outcome = .ok path) :
    ∃ version product, (override <|> layout.declaredVersion) = some version ∧
      layout.product = some product ∧
      (IsEntry l.directory { family := l.family, version, product : TableName }.fileName path ↔
        '/' ∉ product.toList) ∧
      ∀ name, IsEntry l.directory name path → '/' ∉ product.toList := by
  obtain ⟨version, product, hversion, hproduct, rfl⟩ := resolve_eq_ok_iff.mp h
  exact ⟨version, product, hversion, hproduct, TableName.isEntry_join_iff l.directory hfamily,
    fun name hentry => TableName.slash_notMem_of_isEntry hfamily hentry⟩

/-- The table that is chosen for a layout is an entry of the tables directory, under the name that is
made of the family, the revision and the product. -/
def StaysInside (l : TableLocator) (layout : Layout) (override : Option Version) : Prop :=
  ∀ path version product, (l.resolve layout override).outcome = .ok path →
    (override <|> layout.declaredVersion) = some version → layout.product = some product →
      IsEntry l.directory { family := l.family, version, product : TableName }.fileName path

/-- Points do not lead out of the directory, which may itself be spelled with some. -/
theorem isEntry_iff_of_resolve_points :
    ∃ path,
      ((ofDirectory "../data/./").resolve (productLayout " .. ") none).outcome = .ok path ∧
      IsEntry "../data/./" "ODIM_H5_V2_1_...csv" path := by
  have hresolve : ((ofDirectory "../data/./").resolve (productLayout " .. ") none).outcome
      = .ok "../data/./ODIM_H5_V2_1_...csv" := by
    rw [← Except.toOption_eq_some_iff]
    decide +kernel
  obtain ⟨version, product, hversion, hproduct, hentry, -⟩ :=
    isEntry_iff_of_resolve (by decide) hresolve
  have hdeclared : (none <|> (productLayout " .. ").declaredVersion) = some ⟨2, 1⟩ := by
    decide +kernel
  have hnamed : (productLayout " .. ").product = some ".." := by decide +kernel
  cases hversion.symm.trans hdeclared
  cases hproduct.symm.trans hnamed
  exact ⟨_, hresolve, hentry.mpr (by decide)⟩

/-- **A product that leads out of the directory.**  Its table is looked for below the directory that
the tables directory stands in. -/
theorem not_staysInside_parents :
    ¬ (ofDirectory "data").StaysInside (productLayout "/../../x") none := by
  intro h
  have hresolve : ((ofDirectory "data").resolve (productLayout "/../../x") none).outcome
      = .ok "data/ODIM_H5_V2_1_/../../x.csv" := by
    rw [← Except.toOption_eq_some_iff]
    decide +kernel
  have hentry := h _ ⟨2, 1⟩ "/../../x" hresolve (by decide +kernel) (by decide +kernel)
  have hnames := hentry.components_eq
  revert hnames
  decide +kernel

end TableLocator

end RadarConform
