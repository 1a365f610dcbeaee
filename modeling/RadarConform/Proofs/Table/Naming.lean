import RadarConform.Proofs.FilePath
import RadarConform.Proofs.Number.Numeral
import RadarConform.Table.Name

/-!
# Reading the name of a table back

The name of a table is put together with underscores and taken apart at the last three of them.  The
numbers of the revision are digits, so the two agree as long as the product has no underscore of its
own.

* `Version.component?_digits` — a number of a revision is read back from its digits.
* `Version.parse_text_eq` — a revision is read back from its text form.
* `TableName.WellFormed` — a family and a product that can be told apart in a name.
* `TableName.ofPath?_of_fileName?` — **a name is read back from a path that ends with it**, if its
  product has no underscore.
* `TableName.wellFormed_of_ofPath?` — a name that is read off a path is well formed, so no other is
  ever read back.
* `TableName.ofPath?_eq_of_same` — paths that are the same tell the same name.
* `TableName.fileName_readsBack` — **a name is read back exactly when it is well formed**, and what
  is read off a path is read back from the name that it makes.
-/

namespace RadarConform

/-! ## The numbers of a revision -/

namespace Version

/-- The digits of a number of a revision. -/
def digits (n : UInt32) : List Char := (toString n.toNat).toList

lemma digits_eq (n : UInt32) : digits n = Nat.toDigits 10 n.toNat := by
  rw [digits, Nat.toString_eq_repr, Nat.toList_repr]

lemma isDigit_of_mem_digits {n : UInt32} {c : Char} (h : c ∈ digits n) : c.isDigit = true := by
  rw [digits_eq] at h
  exact Nat.isDigit_of_mem_toDigits (by decide) (by decide) h

lemma digits_ne_nil (n : UInt32) : digits n ≠ [] := by
  rw [digits_eq]
  exact Nat.toDigits_ne_nil

/-- Digits are neither white space nor anything else that has a meaning in a revision. -/
lemma plain_of_mem_digits {n : UInt32} {c : Char} (h : c ∈ digits n) :
    endsWord c = false ∧ c ∉ ['.', '_', '+', 'V', 'v'] := by
  have hdigit : Decimal.isDigit c = true := isDigit_of_mem_digits h
  exact Decimal.of_isDigit (by decide) hdigit

lemma underscore_notMem_digits (n : UInt32) : '_' ∉ digits n :=
  fun h => (plain_of_mem_digits h).2 (by decide)

lemma slash_notMem_digits (n : UInt32) : '/' ∉ digits n := by
  intro h
  have hword := (plain_of_mem_digits h).1
  revert hword
  decide

lemma exists_cons_digits (n : UInt32) :
    ∃ c cs, digits n = c :: cs ∧ c ∉ ['.', '_', '+', 'V', 'v'] := by
  obtain ⟨c, cs, hcons⟩ := List.exists_cons_of_ne_nil (digits_ne_nil n)
  have hc : c ∈ digits n := by
    rw [hcons]
    exact List.mem_cons_self
  exact ⟨c, cs, hcons, (plain_of_mem_digits hc).2⟩

/-- Digits do not start with a sign. -/
lemma dropPlus_digits (n : UInt32) : dropPlus (digits n) = digits n := by
  obtain ⟨c, cs, hcons, hc⟩ := exists_cons_digits n
  rw [hcons, dropPlus]
  rintro _ heq
  cases heq
  exact hc (by decide)

/-- A number of a revision is read back from its digits. -/
lemma component?_digits (n : UInt32) : component? (digits n) = some n := by
  have hall : (digits n).all (fun c => '0' ≤ c && c ≤ '9') = true := by
    refine List.all_eq_true.mpr fun c hc => ?_
    have hdigit := isDigit_of_mem_digits hc
    simp only [Char.isDigit, Bool.and_eq_true, decide_eq_true_eq] at hdigit
    rw [Bool.and_eq_true, decide_eq_true_eq, decide_eq_true_eq]
    exact hdigit
  have hvalue : (digits n).foldl (fun n c => 10 * n + (c.toNat - 48)) 0 = n.toNat := by
    rw [digits_eq]
    exact Nat.ofDigitChars_ten_toDigits
  simp only [component?, dropPlus_digits, hvalue]
  rw [if_pos ⟨digits_ne_nil n, hall, n.toNat_lt⟩, UInt32.ofNat_toNat]

lemma toList_text (v : Version) : v.text.toList = digits v.major ++ '.' :: digits v.minor := by
  simp [text, digits, String.toList_append]

/-- The text form is a single word. -/
lemma lastWord_text (v : Version) : lastWord v.text.toList = v.text.toList := by
  have hword : ∀ c ∈ v.text.toList, endsWord c = false := by
    rw [toList_text, List.forall_mem_append, List.forall_mem_cons]
    exact ⟨fun c hc => (plain_of_mem_digits hc).1, rfl, fun c hc => (plain_of_mem_digits hc).1⟩
  have htight : Text.Tight v.text.toList :=
    Text.tight_of_forall fun c hc => (Bool.or_eq_false_iff.mp (hword c hc)).2
  rw [lastWord, Text.trim_eq_of_padded (Text.padded_self _) htight, Text.pieces_of_free hword]
  rfl

/-- **A revision is read back from its text form.** -/
lemma parse_text_eq (v : Version) : parse v.text = .ok v := by
  have hletter : dropLetter v.text.toList = v.text.toList := by
    obtain ⟨c, cs, hcons, hc⟩ := exists_cons_digits v.major
    rw [toList_text, hcons, List.cons_append, dropLetter]
    · rintro _ heq
      cases heq
      exact hc (by decide)
    · rintro _ heq
      cases heq
      exact hc (by decide)
  have hcut : Text.cutOnce (fun c => c == '.' || c == '_') v.text.toList
      = some (digits v.major, digits v.minor) := by
    refine Text.cutOnce_eq_some_iff.mpr ⟨'.', rfl, toList_text v, fun c hc => ?_⟩
    have hplain := (plain_of_mem_digits hc).2
    rw [Bool.or_eq_false_iff, beq_eq_false_iff_ne, beq_eq_false_iff_ne]
    constructor
    · rintro rfl
      exact hplain (by decide)
    · rintro rfl
      exact hplain (by decide)
  simp only [parse, lastWord_text, hletter, hcut, component?_digits]

end Version

namespace TableName

open FilePath

/-! ## The whole name -/

/-- The family and the major number. -/
def untilMajor (n : TableName) : List Char :=
  n.family.toList ++ '_' :: 'V' :: Version.digits n.version.major

/-- The family and the revision. -/
def untilMinor (n : TableName) : List Char := n.untilMajor ++ '_' :: Version.digits n.version.minor

/-- The name of a table without its extension. -/
def stem (n : TableName) : List Char := n.untilMinor ++ '_' :: n.product.toList

lemma toList_fileName (n : TableName) : n.fileName.toList = n.stem ++ '.' :: ['c', 's', 'v'] := by
  simp [fileName, stem, untilMinor, untilMajor, Version.tag, Version.digits, String.toList_append]

/-- What every name of a table ends with. -/
def ending : List RawUnit := point :: ['c', 's', 'v'].map .char

lemma units_fileName (n : TableName) :
    (RawText.ofText n.fileName).units = n.stem.map .char ++ ending := by
  rw [RawText.units_ofText, toList_fileName, List.map_append]
  rfl

/-- The ending keeps a name apart from those that say nothing. -/
lemma append_ending_ne (p : List RawUnit) : p ++ ending ≠ [] ∧ p ++ ending ≠ [point] := by
  constructor
  · intro h
    cases (List.append_eq_nil_iff.mp h).2
  · intro h
    have hlength := congrArg List.length h
    simp [ending] at hlength

lemma stem_ne_nil (n : TableName) : n.stem ≠ [] := by simp [stem]

lemma cutLast_untilMajor (n : TableName) : FilePath.cutLast '_' n.untilMajor
    = some (n.family.toList, 'V' :: Version.digits n.version.major) := by
  refine cutLast_eq_some_iff.mpr ⟨rfl, ?_⟩
  rw [List.mem_cons, not_or]
  exact ⟨by decide, Version.underscore_notMem_digits _⟩

lemma cutLast_untilMinor (n : TableName) : FilePath.cutLast '_' n.untilMinor
    = some (n.untilMajor, Version.digits n.version.minor) :=
  cutLast_eq_some_iff.mpr ⟨rfl, Version.underscore_notMem_digits _⟩

/-- **A name is read back from a path that ends with it**, if its product has no underscore. -/
lemma ofPath?_of_fileName? {n : TableName} {path : FilePath}
    (h : fileName? path = some (RawText.ofText n.fileName).units) (hfamily : n.family ≠ "")
    (hproduct : n.product ≠ "") (hunderscore : '_' ∉ n.product.toList) : ofPath? path = some n := by
  rw [units_fileName] at h
  have hstem : FilePath.cutLast '_' n.stem = some (n.untilMinor, n.product.toList) :=
    cutLast_eq_some_iff.mpr ⟨rfl, hunderscore⟩
  have hparts : ¬(n.product.toList = [] ∨ n.family.toList = []) := by simp [hfamily, hproduct]
  have hne : n.stem.map RawUnit.char ≠ [] := by simp [stem_ne_nil]
  rw [ofPath?, extension?_of_point h hne (by decide), stem?_of_point h hne (by decide)]
  simp only [Option.bind_eq_bind, Option.bind_some, RawUnit.chars?_eq_some_iff.mpr rfl, ne_eq,
    not_true_eq_false, if_false, hstem, cutLast_untilMinor, cutLast_untilMajor, if_neg hparts, major?,
    Version.component?_digits, String.ofList_toList]
  rfl

/-- A family and a product that can be told apart in a name. -/
structure WellFormed (n : TableName) : Prop where
  family_ne : n.family ≠ ""
  slash_notMem_family : '/' ∉ n.family.toList
  product_ne : n.product ≠ ""
  underscore_notMem_product : '_' ∉ n.product.toList
  slash_notMem_product : '/' ∉ n.product.toList

/-- **A name that is read off a path is well formed**, however the path spells it. -/
lemma wellFormed_of_ofPath? {n : TableName} {path : FilePath} (h : ofPath? path = some n) :
    n.WellFormed := by
  simp only [ofPath?, Option.bind_eq_bind, Option.bind_eq_some_iff] at h
  obtain ⟨_, -, extension, -, name, hname, stem, hstem, h⟩ := h
  obtain rfl := RawUnit.chars?_eq_some_iff.mp hstem
  split at h
  · cases h
  · simp only [Option.bind_eq_some_iff] at h
    obtain ⟨⟨rest, product⟩, hproduct, ⟨rest', minor⟩, hminor, ⟨family, major⟩, hmajor, h⟩ := h
    split at h
    · cases h
    · next hne =>
        simp only [Option.bind_eq_some_iff] at h
        obtain ⟨_, -, _, -, heq⟩ := h
        cases heq
        rw [not_or] at hne
        obtain ⟨rfl, hunderscore⟩ := cutLast_eq_some_iff.mp hproduct
        obtain ⟨rfl, -⟩ := cutLast_eq_some_iff.mp hminor
        obtain ⟨rfl, -⟩ := cutLast_eq_some_iff.mp hmajor
        have hslash := slash_notMem_of_stem? hname
        have hfamily : '/' ∉ family := fun hmem => hslash (by simp [hmem])
        have hproduct : '/' ∉ product := fun hmem => hslash (by simp [hmem])
        exact {
          family_ne := by simpa using hne.2
          slash_notMem_family := by simpa using hfamily
          product_ne := by simpa using hne.1
          underscore_notMem_product := by simpa using hunderscore
          slash_notMem_product := by simpa using hproduct }

/-- No product that is read off a path holds an underscore or a slash. -/
lemma notMem_product_of_ofPath? {n : TableName} {path : FilePath} (h : ofPath? path = some n) :
    '_' ∉ n.product.toList ∧ '/' ∉ n.product.toList := by
  have hformed := wellFormed_of_ofPath? h
  exact ⟨hformed.underscore_notMem_product, hformed.slash_notMem_product⟩

lemma slash_notMem_fileName {n : TableName} (hfamily : '/' ∉ n.family.toList)
    (hproduct : '/' ∉ n.product.toList) : '/' ∉ n.fileName.toList := by
  simp [toList_fileName, stem, untilMinor, untilMajor, hfamily, hproduct,
    Version.slash_notMem_digits]

/-- The file of a table has its own name below every directory; the extension keeps it apart from
the names that say nothing. -/
lemma fileName?_below {n : TableName} (directory : FilePath) (hfamily : '/' ∉ n.family.toList)
    (hproduct : '/' ∉ n.product.toList) :
    fileName? (FilePath.join directory n.fileName) = some (RawText.ofText n.fileName).units := by
  have hlast : (RawText.ofText n.fileName).units.getLast? = some (.char 'v') := by
    simp [units_fileName, ending]
  have hslash := slash_notMem_fileName hfamily hproduct
  refine fileName?_join directory (mt RawText.char_mem_units_ofText.mp hslash) ?_ ?_ ?_
  all_goals
    intro heq
    rw [heq] at hlast
    revert hlast
    decide

/-- **A name is read back below every directory** exactly when it is well formed. -/
lemma ofPath?_join_iff_wellFormed (directory : FilePath) {n : TableName} :
    ofPath? (FilePath.join directory n.fileName) = some n ↔ n.WellFormed := by
  constructor
  · exact wellFormed_of_ofPath?
  · intro h
    have hname := fileName?_below directory h.slash_notMem_family h.slash_notMem_product
    exact ofPath?_of_fileName? hname h.family_ne h.product_ne h.underscore_notMem_product

/-! ## Paths that are the same -/

/-- Paths that are the same tell the same name. -/
lemma ofPath?_eq_of_same {path other : FilePath} (h : FilePath.same path other = true) :
    ofPath? path = ofPath? other := by
  rw [ofPath?, ofPath?, FilePath.extension?, FilePath.extension?, FilePath.stem?, FilePath.stem?,
    fileName?_eq_of_same h]

/-! ## Names on their own -/

lemma ofPath?_fileName_iff {n : TableName} : ofPath? n.fileName = some n ↔ n.WellFormed := by
  have hjoin : FilePath.join "" n.fileName = n.fileName := if_pos (.inr rfl)
  rw [← ofPath?_join_iff_wellFormed "", hjoin]

/-- **A name is read back exactly when it is well formed**: it has a family and a product, neither
of them with a slash, and the product without an underscore.  And whatever a path tells, in
whichever spelling and below whichever directories, is told by the name that is made of it. -/
theorem fileName_readsBack :
    (∀ n : TableName, ofPath? n.fileName = some n ↔
      (n.family ≠ "" ∧ '/' ∉ n.family.toList) ∧
        n.product ≠ "" ∧ '_' ∉ n.product.toList ∧ '/' ∉ n.product.toList) ∧
      ∀ path n, ofPath? path = some n → ofPath? n.fileName = some n := by
  constructor
  · intro n
    rw [ofPath?_fileName_iff]
    constructor
    · rintro ⟨hfamily, hslash, hproduct, hunderscore, hslash'⟩
      exact ⟨⟨hfamily, hslash⟩, hproduct, hunderscore, hslash'⟩
    · rintro ⟨⟨hfamily, hslash⟩, hproduct, hunderscore, hslash'⟩
      exact ⟨hfamily, hslash, hproduct, hunderscore, hslash'⟩
  · intro path n h
    exact ofPath?_fileName_iff.mpr (wellFormed_of_ofPath? h)

/-- A family that looks like a name itself, with a letter, numbers and directories that are spelled
in other ways than names are made. -/
theorem fileName_readsBack_lenient :
    ofPath? "V1_2_A/..X_V3_4_B_v+007_0_.C.csv.csv/./"
        = some { family := "..X_V3_4_B", version := ⟨7, 0⟩, product := ".C.csv" } ∧
      ofPath? "..X_V3_4_B_V7_0_.C.csv.csv"
        = some { family := "..X_V3_4_B", version := ⟨7, 0⟩, product := ".C.csv" } := by
  have hpath : ofPath? "V1_2_A/..X_V3_4_B_v+007_0_.C.csv.csv/./"
      = some { family := "..X_V3_4_B", version := ⟨7, 0⟩, product := ".C.csv" } := by
    decide +kernel
  have hname : { family := "..X_V3_4_B", version := ⟨7, 0⟩, product := ".C.csv" : TableName }.fileName
      = "..X_V3_4_B_V7_0_.C.csv.csv" := by decide +kernel
  have hback := fileName_readsBack.2 _ _ hpath
  rw [hname] at hback
  exact ⟨hpath, hback⟩

end TableName

end RadarConform
