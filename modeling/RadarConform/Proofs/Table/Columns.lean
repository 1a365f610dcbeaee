import Mathlib.Data.Fin.VecNotation
import Mathlib.Data.List.Find
import Mathlib.Logic.Embedding.Basic
import RadarConform.Proofs.Table.Written

/-!
# The order of columns

The columns of a table are found by their names, so it does not matter where they stand: a table
whose columns are moved about is read as the same table, or fails in the same way.  Nor does the
case of their names matter, or what stands in columns that have other names.

* `Columns.names`, `Columns.Known` — the names that mean something.
* `RuleTable.quotedText` — a table with a header and some rows, in which every field is quoted.
* `RuleTable.parse_quotedText_congr` — **only the fields under known names show in what is read**.
* `RuleTable.parse_rearranged` — so columns may be moved and named in any case, and columns with
  other names may be filled and named in any way, or left out.
-/

namespace RadarConform

/-! ## Names of columns -/

namespace Columns

/-- The names that mean something in a header. -/
def names : List String := required ++ ["Description"]

/-- Whether a field of a header is the name of a column that a table is read from. -/
def Known (field : String) : Prop := ∃ name ∈ names, isNamed name field = true

instance (field : String) : Decidable (Known field) := List.decidableBEx _ _

lemma isNamed_iff {name field : String} : isNamed name field = true ↔
    ValueKind.folded field = .ofList (name.toList.map Char.toLower) := by
  rw [isNamed, beq_iff_eq, ValueKind.folded, String.ofList_inj]

/-- The case of a field has no part in its name. -/
lemma folded_eq_of_recased {field field' : String}
    (h : field.toList.map Char.toLower = field'.toList.map Char.toLower) :
    ValueKind.folded field = ValueKind.folded field' := by
  rw [ValueKind.folded, ValueKind.folded, ← Text.trim_map_toLower, h, Text.trim_map_toLower]

variable {n m : Nat} {header : Fin n → String} {header' : Fin m → String} {name : String}

/-- Of distinct fields, at most one has a name. -/
lemma eq_of_isNamed (h : Function.Injective fun i => ValueKind.folded (header i)) {i j : Fin n}
    (hi : isNamed name (header i) = true) (hj : isNamed name (header j) = true) : i = j :=
  h ((isNamed_iff.mp hi).trans (isNamed_iff.mp hj).symm)

lemma exists_of_find?_ofFn {k : Nat} (h : find? (List.ofFn header) name = some k) :
    ∃ i : Fin n, i = k ∧ isNamed name (header i) = true := by
  obtain ⟨hk, hnamed, -⟩ := List.findIdx?_eq_some_iff_getElem.mp h
  rw [List.length_ofFn] at hk
  rw [List.getElem_ofFn] at hnamed
  exact ⟨⟨k, hk⟩, rfl, hnamed⟩

lemma isSome_find?_ofFn :
    (find? (List.ofFn header) name).isSome = true ↔ ∃ i, isNamed name (header i) = true := by
  rw [find?, List.findIdx?_isSome, List.any_eq_true]
  simp

/-- Headers that name the same columns. -/
def SameNames (header : Fin n → String) (header' : Fin m → String) : Prop :=
  ∀ name ∈ names, (∃ i, isNamed name (header i) = true) ↔ ∃ j, isNamed name (header' j) = true

/-- Rows with the same fields in the columns of a name, under their headers. -/
def SameFields (header : Fin n → String) (header' : Fin m → String) (row : Fin n → String)
    (row' : Fin m → String) : Prop :=
  ∀ name ∈ names, ∀ i j, isNamed name (header i) = true → isNamed name (header' j) = true →
    row i = row' j

lemma SameNames.firstMissing?_eq (h : SameNames header header') :
    firstMissing? (List.ofFn header) required = firstMissing? (List.ofFn header') required := by
  refine List.find?_congr fun name hname => ?_
  have hsome :
      (find? (List.ofFn header) name).isSome = (find? (List.ofFn header') name).isSome := by
    rw [Bool.eq_iff_iff, isSome_find?_ofFn, isSome_find?_ofFn]
    exact h name (List.mem_append_left _ hname)
  rw [← Option.not_isSome, ← Option.not_isSome, hsome]

variable {row : Fin n → String} {row' : Fin m → String} {columns columns' : Columns}

/-- The fields of a column, wherever it stands. -/
lemma SameFields.exists_getElem? (h : SameFields header header' row row') (hname : name ∈ names)
    {k k' : Nat} (hk : find? (List.ofFn header) name = some k)
    (hk' : find? (List.ofFn header') name = some k') :
    ∃ field, (List.ofFn row)[k]? = some field ∧ (List.ofFn row')[k']? = some field := by
  obtain ⟨i, rfl, hi⟩ := exists_of_find?_ofFn hk
  obtain ⟨j, rfl, hj⟩ := exists_of_find?_ofFn hk'
  refine ⟨row i, by simp, ?_⟩
  rw [h name hname i j hi hj]
  simp

/-- **Rows with the same fields under the same names say the same**, wherever their columns are. -/
lemma SameFields.exists_picks (h : SameFields header header' row row')
    (hnames : SameNames header header') (hcolumns : columns.Named (List.ofFn header))
    (hcolumns' : columns'.Named (List.ofFn header')) :
    ∃ fields, columns.Picks (List.ofFn row) fields ∧ columns'.Picks (List.ofFn row') fields := by
  obtain ⟨hnode, hcategory, htype, hmandatory, hvalues, hdescription⟩ := hcolumns
  obtain ⟨hnode', hcategory', htype', hmandatory', hvalues', hdescription'⟩ := hcolumns'
  obtain ⟨node, hn, hn'⟩ := h.exists_getElem? (by decide) hnode hnode'
  obtain ⟨category, hc, hc'⟩ := h.exists_getElem? (by decide) hcategory hcategory'
  obtain ⟨valueType, ht, ht'⟩ := h.exists_getElem? (by decide) htype htype'
  obtain ⟨mandatory, hm, hm'⟩ := h.exists_getElem? (by decide) hmandatory hmandatory'
  obtain ⟨values, hv, hv'⟩ := h.exists_getElem? (by decide) hvalues hvalues'
  have hd : columns.description.bind ((List.ofFn row)[·]?)
      = columns'.description.bind ((List.ofFn row')[·]?) := by
    have hsome := hnames "Description" (by decide)
    rw [← isSome_find?_ofFn, ← isSome_find?_ofFn, hdescription, hdescription'] at hsome
    cases hk : columns.description with
    | none =>
        cases hk' : columns'.description with
        | none => rfl
        | some k' => simp [hk, hk'] at hsome
    | some k =>
        cases hk' : columns'.description with
        | none => simp [hk, hk'] at hsome
        | some k' =>
            obtain ⟨field, hfield, hfield'⟩ := h.exists_getElem? (by decide)
              (hdescription.trans hk) (hdescription'.trans hk')
            exact hfield.trans hfield'.symm
  exact ⟨{ node, category, valueType, mandatory, values, description := _ },
    ⟨hn, hc, ht, hm, hv, rfl⟩, ⟨hn', hc', ht', hm', hv', congrArg (·.getD "") hd.symm⟩⟩

end Columns

/-! ## Tables of quoted fields -/

namespace RuleTable

variable {n m : Nat} {header : Fin n → String} {header' : Fin m → String}
  {rows : List (Fin n → String)} {rows' : List (Fin m → String)}

/-- The lines of a table with a header and some rows, in which every field is quoted. -/
def quotedLines (header : Fin n → String) (rows : List (Fin n → String)) : List (List Char) :=
  (header :: rows).map fun fields => Record.line (List.ofFn fields)

/-- The text of a table with a header and some rows; its last line may be ended by a line feed or by
the text. -/
def quotedText (header : Fin n → String) (rows : List (Fin n → String)) (ended : Bool) : String :=
  .ofList (joinedLines (quotedLines header rows) ended)

/-- Fields without line feeds. -/
def Feedless (fields : Fin n → String) : Prop := ∀ i, '\n' ∉ (fields i).toList

instance (fields : Fin n → String) : Decidable (Feedless fields) := Nat.decidableForallFin _

lemma split_line_ofFn (hn : 0 < n) (fields : Fin n → String) :
    Record.split (Record.line (List.ofFn fields)) = .ok (List.ofFn fields) :=
  Record.split_line (by simpa using Nat.pos_iff_ne_zero.mp hn)

/-- The records of a table of quoted fields are all its lines. -/
lemma recordLines_quotedText (hn : 0 < n) (h : ∀ fields ∈ header :: rows, Feedless fields)
    (ended : Bool) : recordLines (quotedText header rows ended)
      = (1, Record.line (List.ofFn header)) ::
        numberedFrom 2 (rows.map fun row => Record.line (List.ofFn row)) := by
  refine recordLines_of_kept (by simp [quotedLines]) (fun line hline => ?_) ended
  obtain ⟨fields, hfields, rfl⟩ := List.mem_map.mp hline
  refine keptLine_line (by simpa using Nat.pos_iff_ne_zero.mp hn) fun field hfield => ?_
  obtain ⟨i, rfl⟩ := List.mem_ofFn.mp hfield
  exact h fields hfields i

variable {columns columns' : Columns} {path : String} {version : Option Version}

lemma ruleOfLine_congr (hn : 0 < n) (hm : 0 < m) {row : Fin n → String} {row' : Fin m → String}
    (h : Columns.SameFields header header' row row') (hnames : Columns.SameNames header header')
    (hcolumns : columns.Named (List.ofFn header)) (hcolumns' : columns'.Named (List.ofFn header')) :
    ruleOfLine columns version (Record.line (List.ofFn row))
      = ruleOfLine columns' version (Record.line (List.ofFn row')) := by
  obtain ⟨fields, hpicks, hpicks'⟩ := h.exists_picks hnames hcolumns hcolumns'
  simp only [ruleOfLine, split_line_ofFn hn, split_line_ofFn hm, Except.mapError_ok, Except.ok_bind,
    Columns.pick?_eq_some_iff.mpr hpicks, Columns.pick?_eq_some_iff.mpr hpicks']

/-- Related lines are related with their numbers. -/
lemma forall₂_numberedFrom {R : List Char → List Char → Prop} {lines lines' : List (List Char)}
    (h : List.Forall₂ R lines lines') (k : Nat) :
    List.Forall₂ (fun r r' => r.1 = r'.1 ∧ R r.2 r'.2) (numberedFrom k lines)
      (numberedFrom k lines') := by
  induction h generalizing k with
  | nil => exact .nil
  | cons hline _ ih => exact .cons ⟨rfl, hline⟩ (ih (k + 1))

lemma rulesOfLines_congr (hn : 0 < n) (hm : 0 < m)
    (h : List.Forall₂ (Columns.SameFields header header') rows rows')
    (hnames : Columns.SameNames header header') (hcolumns : columns.Named (List.ofFn header))
    (hcolumns' : columns'.Named (List.ofFn header')) (k : Nat) :
    rulesOfLines path columns version
        (numberedFrom k (rows.map fun row => Record.line (List.ofFn row)))
      = rulesOfLines path columns' version
        (numberedFrom k (rows'.map fun row => Record.line (List.ofFn row))) := by
  have hlines : List.Forall₂ (fun line line' =>
      ruleOfLine columns version line = ruleOfLine columns' version line')
      (rows.map fun row => Record.line (List.ofFn row))
      (rows'.map fun row => Record.line (List.ofFn row)) :=
    List.forall₂_map_left_iff.mpr <| List.forall₂_map_right_iff.mpr <|
      h.imp fun _ _ hrow => ruleOfLine_congr hn hm hrow hnames hcolumns hcolumns'
  rw [rulesOfLines_eq_mapM, rulesOfLines_eq_mapM]
  refine Except.mapM_eq_mapM_of_forall₂ ((forall₂_numberedFrom hlines k).imp ?_)
  rintro ⟨k, line⟩ ⟨_, line'⟩ ⟨rfl, hline⟩
  exact congrArg (·.mapError (TableError.row path k)) hline

/-- **What is read of a table of quoted fields depends on the fields under known names only.** -/
lemma parse_quotedText_congr (hn : 0 < n) (hm : 0 < m)
    (hfeed : ∀ fields ∈ header :: rows, Feedless fields)
    (hfeed' : ∀ fields ∈ header' :: rows', Feedless fields)
    (hnames : Columns.SameNames header header')
    (hrows : List.Forall₂ (Columns.SameFields header header') rows rows') (ended : Bool) :
    RuleTable.parse (quotedText header rows ended) path version
      = RuleTable.parse (quotedText header' rows' ended) path version := by
  rw [RuleTable.parse, RuleTable.parse, recordLines_quotedText hn hfeed,
    recordLines_quotedText hm hfeed']
  simp only [split_line_ofFn hn, split_line_ofFn hm, Except.mapError_ok, Except.ok_bind]
  cases hheader : Columns.ofHeader path (List.ofFn header) with
  | error e =>
      have hheader' : Columns.ofHeader path (List.ofFn header') = .error e := by
        rw [Columns.ofHeader_eq_error_iff, ← hnames.firstMissing?_eq]
        exact Columns.ofHeader_eq_error_iff.mp hheader
      rw [hheader']
      rfl
  | ok columns =>
      cases hheader' : Columns.ofHeader path (List.ofFn header') with
      | error e =>
          rw [Columns.ofHeader_eq_error_iff, ← hnames.firstMissing?_eq,
            ← Columns.ofHeader_eq_error_iff, hheader] at hheader'
          cases hheader'
      | ok columns' =>
          rw [Except.ok_bind, Except.ok_bind, rulesOfLines_congr hn hm hrows hnames
            (Columns.ofHeader_eq_ok_iff.mp hheader) (Columns.ofHeader_eq_ok_iff.mp hheader')]

/-! ## Rearranging columns -/

section Rearranging

variable (hdistinct : Function.Injective fun i => ValueKind.folded (header i))
include hdistinct

/-- Columns may be moved, and named in any case. -/
lemma parse_permuted (hfeed : ∀ fields ∈ header :: rows, Feedless fields) (σ : Equiv.Perm (Fin n))
    {recased : Fin n → String} (hrecased : Feedless recased)
    (hcase : ∀ i, (recased i).toList.map Char.toLower = (header (σ i)).toList.map Char.toLower)
    (ended : Bool) : RuleTable.parse (quotedText recased (rows.map (· ∘ σ)) ended) path version
      = RuleTable.parse (quotedText header rows ended) path version := by
  rcases Nat.eq_zero_or_pos n with rfl | hn
  · rw [Subsingleton.elim recased header, List.map_id'' fun row => Subsingleton.elim _ row]
  obtain ⟨hheader, hrows⟩ := List.forall_mem_cons.mp hfeed
  have hnamed (name : String) (i : Fin n) :
      Columns.isNamed name (recased i) = Columns.isNamed name (header (σ i)) := by
    rw [Bool.eq_iff_iff, Columns.isNamed_iff, Columns.isNamed_iff,
      Columns.folded_eq_of_recased (hcase i)]
  refine parse_quotedText_congr hn hn (List.forall_mem_cons.mpr ⟨hrecased, ?_⟩) hfeed ?_ ?_ ended
  · intro fields hfields i
    obtain ⟨row, hrow, rfl⟩ := List.mem_map.mp hfields
    exact hrows row hrow (σ i)
  · intro name _
    constructor
    · rintro ⟨i, hi⟩
      exact ⟨σ i, hnamed name i ▸ hi⟩
    · rintro ⟨j, hj⟩
      exact ⟨σ.symm j, by rw [hnamed, σ.apply_symm_apply, hj]⟩
  · rw [List.forall₂_map_left_iff, List.forall₂_same]
    intro row _ name _ i j hi hj
    rw [hnamed] at hi
    exact congrArg row (Columns.eq_of_isNamed hdistinct hi hj)

/-- Columns with other names may be named and filled in any other way. -/
lemma parse_refilled {header' : Fin n → String} {rows' : List (Fin n → String)}
    (hfeed : ∀ fields ∈ header :: rows, Feedless fields)
    (hfeed' : ∀ fields ∈ header' :: rows', Feedless fields)
    (hheader : ∀ i, Columns.Known (header i) ∨ Columns.Known (header' i) → header' i = header i)
    (hrows : List.Forall₂ (fun row row' => ∀ i, Columns.Known (header i) → row' i = row i)
      rows rows') (ended : Bool) : RuleTable.parse (quotedText header' rows' ended) path version
      = RuleTable.parse (quotedText header rows ended) path version := by
  rcases Nat.eq_zero_or_pos n with rfl | hn
  · have heq : rows = rows' :=
      List.forall₂_eq_eq_eq ▸ hrows.imp fun _ _ _ => Subsingleton.elim _ _
    rw [heq, Subsingleton.elim header' header]
  refine (parse_quotedText_congr hn hn hfeed hfeed' ?_ (hrows.imp ?_) ended).symm
  · intro name hname
    refine exists_congr fun i => ?_
    constructor
    · intro hi
      rwa [hheader i (.inl ⟨name, hname, hi⟩)]
    · intro hi
      rwa [← hheader i (.inr ⟨name, hname, hi⟩)]
  · intro row row' hrow name hname i j hi hj
    rw [hheader j (.inr ⟨name, hname, hj⟩)] at hj
    rw [Columns.eq_of_isNamed hdistinct hi hj, hrow j ⟨name, hname, hj⟩]

/-- Columns with other names may be left out, as long as there is a column. -/
lemma parse_kept (hfeed : ∀ fields ∈ header :: rows, Feedless fields) (kept : Fin m ↪ Fin n)
    (hm : 0 < m) (hkept : ∀ i, Columns.Known (header i) → i ∈ Set.range kept) (ended : Bool) :
    RuleTable.parse (quotedText (header ∘ kept) (rows.map (· ∘ kept)) ended) path version
      = RuleTable.parse (quotedText header rows ended) path version := by
  have hn : 0 < n := Fin.pos (kept ⟨0, hm⟩)
  refine parse_quotedText_congr hm hn ?_ hfeed ?_ ?_ ended
  · intro fields hfields i
    rw [← List.map_cons (f := (· ∘ kept))] at hfields
    obtain ⟨row, hrow, rfl⟩ := List.mem_map.mp hfields
    exact hfeed row hrow (kept i)
  · intro name hname
    constructor
    · rintro ⟨i, hi⟩
      exact ⟨kept i, hi⟩
    · rintro ⟨j, hj⟩
      obtain ⟨i, rfl⟩ := hkept j ⟨name, hname, hj⟩
      exact ⟨i, hj⟩
  · rw [List.forall₂_map_left_iff, List.forall₂_same]
    intro row _ name _ i j hi hj
    exact congrArg row (Columns.eq_of_isNamed hdistinct hi hj)

end Rearranging

/-- **The order of columns does not matter, nor the case of their names, nor any column with another
name.**  Take a table of quoted fields in which no two columns have the same name.  When its columns
are moved about and their names written in another case, it is read as the same table or fails with
the same error.  So it is when columns with other names are named and filled differently, or are
left out, as long as there is a column: the line of a header without columns would be blank. -/
theorem parse_rearranged (hdistinct : Function.Injective fun i => ValueKind.folded (header i))
    (hfeed : ∀ fields ∈ header :: rows, Feedless fields) (ended : Bool) (path : String)
    (version : Option Version) :
    (∀ (σ : Equiv.Perm (Fin n)) (recased : Fin n → String), Feedless recased →
      (∀ i, (recased i).toList.map Char.toLower = (header (σ i)).toList.map Char.toLower) →
        RuleTable.parse (quotedText recased (rows.map (· ∘ σ)) ended) path version
          = RuleTable.parse (quotedText header rows ended) path version) ∧
    (∀ (header' : Fin n → String) (rows' : List (Fin n → String)),
      (∀ fields ∈ header' :: rows', Feedless fields) →
      (∀ i, Columns.Known (header i) ∨ Columns.Known (header' i) → header' i = header i) →
      List.Forall₂ (fun row row' => ∀ i, Columns.Known (header i) → row' i = row i) rows rows' →
        RuleTable.parse (quotedText header' rows' ended) path version
          = RuleTable.parse (quotedText header rows ended) path version) ∧
    ∀ (m : Nat) (kept : Fin m ↪ Fin n), 0 < m →
      (∀ i, Columns.Known (header i) → i ∈ Set.range kept) →
        RuleTable.parse (quotedText (header ∘ kept) (rows.map (· ∘ kept)) ended) path version
          = RuleTable.parse (quotedText header rows ended) path version := by
  refine ⟨fun σ recased hrecased hcase => ?_, fun header' rows' hfeed' hheader hrows => ?_,
    fun m kept hm hkept => ?_⟩
  · exact parse_permuted hdistinct hfeed σ hrecased hcase ended
  · exact parse_refilled hdistinct hfeed hfeed' hheader hrows ended
  · exact parse_kept hdistinct hfeed kept hm hkept ended

/-- A header with a column of another name. -/
def notedHeader : Fin 6 → String :=
  ![" node", "Category", "TYPE", "IsMandatory\t", "PossibleValues", "Note"]

/-- A row for it that is at fault. -/
def faultyRow : Fin 6 → String := !["/what;1", "group", "", "maybe", "\"", "a note"]

/-- The columns from last to first with names in another case, another note, and no note. -/
theorem parse_rearranged_reversed :
    RuleTable.parse (quotedText notedHeader [faultyRow] true) "t.csv" none
        = .error (.row "t.csv" 2 (.flag "maybe")) ∧
      RuleTable.parse (quotedText
        !["nOTE", "possiblevalues", "ISMANDATORY\t", "type", "cATEGORY", " NODE"]
        [faultyRow ∘ Fin.revPerm] true) "t.csv" none = .error (.row "t.csv" 2 (.flag "maybe")) ∧
      RuleTable.parse (quotedText
        ![" node", "Category", "TYPE", "IsMandatory\t", "PossibleValues", "Remark"]
        [!["/what;1", "group", "", "maybe", "\"", "\";"]] true) "t.csv" none
        = .error (.row "t.csv" 2 (.flag "maybe")) ∧
      RuleTable.parse (quotedText (notedHeader ∘ Fin.castSucc) [faultyRow ∘ Fin.castSucc] true)
        "t.csv" none = .error (.row "t.csv" 2 (.flag "maybe")) := by
  have hfaulty : RuleTable.parse (quotedText notedHeader [faultyRow] true) "t.csv" none
      = .error (.row "t.csv" 2 (.flag "maybe")) := by
    decide +kernel
  have hdistinct : Function.Injective fun i => ValueKind.folded (notedHeader i) := by
    intro i j
    revert i j
    decide +kernel
  have hfeed : ∀ fields ∈ [notedHeader, faultyRow], Feedless fields := by decide +kernel
  obtain ⟨hmoved, hrefilled, hkept⟩ := parse_rearranged hdistinct hfeed true "t.csv" none
  rw [hfaulty] at hmoved hrefilled hkept
  refine ⟨hfaulty, hmoved Fin.revPerm _ ?_ ?_, hrefilled _ _ ?_ ?_ (.cons ?_ .nil),
    hkept 5 ⟨Fin.castSucc, Fin.castSucc_injective 5⟩ (by decide) ?_⟩
  · decide +kernel
  · decide +kernel
  · decide +kernel
  · decide +kernel
  · decide +kernel
  · intro i hi
    have hlt : (i : Nat) < 5 := by
      revert i
      decide +kernel
    exact ⟨⟨i, hlt⟩, rfl⟩

end RuleTable

end RadarConform
