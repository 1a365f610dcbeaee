import RadarConform.Proofs.Location.Spelling
import RadarConform.Proofs.Snapshot.Document
import RadarConform.Proofs.Table.Row

/-!
# Two notations for attributes

Where a text is known to name an attribute, the name may stand after the separator, as in every text
of an attribute, or it may be the last segment of a path.  Tables and snapshots may use either.

* `parseAttribute_of_hash`, `parseAttribute_of_path` — with a separator such a text is read like
  any other; without one its last segment becomes the name.
* `parseAttribute_eq_error_iff` — **a path names an attribute unless all of it is blank** between
  the slashes.
* `SpellsAttribute`, `SpellsAttribute.parseAttribute_eq` — **both notations give one location**,
  the one that is built from the path and the name.
* `parseAttribute_notations` — these laws, and what they mean for rows and snapshots: a row and a
  key that spell one attribute meet at its location.
-/

namespace RadarConform.Location

open Text

variable {input : String}

/-! ## Reading an attribute -/

lemma parseAttribute_of_hash (h : '#' ∈ input.toList) : parseAttribute input = parse input := by
  rw [parseAttribute, if_pos (List.contains_iff_mem.mpr h)]

lemma parseAttribute_of_blank (h : Blank input.toList) : parseAttribute input = .error .empty := by
  have hhash := (gap_of_blank h).hash_notMem
  rw [parseAttribute, if_neg (by rwa [List.contains_iff_mem]), (Reads.blank h).parse_eq]
  rfl

/-- The last segment of a path becomes the name. -/
lemma parseAttribute_of_path (hhash : '#' ∉ input.toList) (hblank : ¬ Blank input.toList) :
    parseAttribute input =
      match (segmentsOf input.toList).getLast? with
      | some name => .ok
          { segments := (segmentsOf input.toList).dropLast, attributeName := some name }
      | none => .error (.noSegment input) := by
  rw [parseAttribute, if_neg (by rwa [List.contains_iff_mem]), (Reads.path hhash hblank).parse_eq]
  rfl

/-- A path without segments is blank between its slashes. -/
lemma segmentsOf_eq_nil_iff {path : List Char} :
    segmentsOf path = [] ↔ ∀ piece ∈ pieces (· == '/') path, Blank piece := by
  simp [segmentsOf, List.filter_eq_nil_iff, trim_eq_nil_iff]

/-- **A path names an attribute** unless all of its pieces are blank. -/
lemma parseAttribute_eq_error_iff (hhash : '#' ∉ input.toList) {e : LocationError} :
    parseAttribute input = .error e ↔
      (∀ piece ∈ pieces (· == '/') input.toList, Blank piece) ∧
        e = if Blank input.toList then .empty else .noSegment input := by
  rw [← segmentsOf_eq_nil_iff]
  by_cases hblank : Blank input.toList
  · have hnil : segmentsOf input.toList = [] := segmentsOf_append_gap [] (gap_of_blank hblank)
    rw [parseAttribute_of_blank hblank, if_pos hblank, and_iff_right hnil, Except.error.injEq,
      eq_comm]
  · rw [parseAttribute_of_path hhash hblank, if_neg hblank]
    cases hlast : (segmentsOf input.toList).getLast? with
    | none =>
        rw [and_iff_right (List.getLast?_eq_none_iff.mp hlast), Except.error.injEq, eq_comm]
    | some name =>
        have hne : segmentsOf input.toList ≠ [] := fun hnil => by
          rw [hnil] at hlast
          cases hlast
        simp [hne]

/-! ## The two notations -/

/-- The texts for the attribute of a name at the end of a path: the name comes after a slash, with
any slashes and white space after it, or after the separator. -/
inductive SpellsAttribute (path name : String) : String → Prop
  | slash {gap : String} : Gap gap.toList → SpellsAttribute path name (path ++ "/" ++ name ++ gap)
  | hash : SpellsAttribute path name (path ++ "#" ++ name)

variable {path name : String}

lemma parse_hash (hpath : '#' ∉ path.toList) (h : IsSegment name) :
    parse (path ++ "#" ++ name) = .ok (ofAttribute [path] name) := by
  have hinput : (path ++ "#" ++ name).toList = path.toList ++ '#' :: name.toList := by simp
  rw [(Reads.named hinput hpath h.hash_notMem h.not_blank).parse_eq]
  simp [ofAttribute, container, trimmed]

lemma parseAttribute_slash (hpath : '#' ∉ path.toList) (h : IsSegment name) {gap : String}
    (hgap : Gap gap.toList) :
    parseAttribute (path ++ "/" ++ name ++ gap) = .ok (ofAttribute [path] name) := by
  have hinput : (path ++ "/" ++ name ++ gap).toList
      = path.toList ++ '/' :: (name.toList ++ gap.toList) := by simp
  have hsegments : segmentsOf (path ++ "/" ++ name ++ gap).toList
      = segmentsOf path.toList ++ [.ofList (trim name.toList)] := by
    rw [hinput, segmentsOf_append_slash, segmentsOf_append_gap _ hgap, h.segmentsOf_eq]
  have hhash : '#' ∉ (path ++ "/" ++ name ++ gap).toList := by
    rw [hinput]
    simp [hpath, h.hash_notMem, hgap.hash_notMem]
  have hblank : ¬ Blank (path ++ "/" ++ name ++ gap).toList := by
    rw [hinput]
    exact fun hblank => absurd (hblank '/' (by simp)) (by decide)
  rw [parseAttribute_of_path hhash hblank, hsegments, List.getLast?_concat, List.dropLast_concat]
  simp [ofAttribute, container, trimmed]

/-- **Both notations give one location.** -/
lemma SpellsAttribute.parseAttribute_eq {text : String} (htext : SpellsAttribute path name text)
    (hpath : '#' ∉ path.toList) (h : IsSegment name) :
    parseAttribute text = .ok (ofAttribute [path] name) := by
  cases htext with
  | slash hgap => exact parseAttribute_slash hpath h hgap
  | hash => rw [parseAttribute_of_hash (by simp), parse_hash hpath h]

/-! ## Rows and keys -/

/-- The rule of a row for an attribute is a rule for the location that the row spells. -/
lemma location_of_row {row : RowFields} {version : Option Version} {rule : Rule} {l : Location}
    (hcategory : Category.parse? row.category = some .attr)
    (hrule : row.rule version = .ok rule) (hnode : parseAttribute row.node = .ok l) :
    rule.location = l := by
  obtain ⟨category, hsays⟩ := RowFields.rule_eq_ok_iff.mp hrule
  have heq := hsays.category_eq
  rw [hcategory] at heq
  cases heq
  have hlocation := hsays.location_eq
  rw [Category.location, if_pos rfl, hnode] at hlocation
  exact (Except.ok.inj hlocation).symm

/-- An entry with a value attaches it at the location that the key spells. -/
lemma attach_of_addEntry {origin key : String} {layout layout' : Layout} {v : Json} {l : Location}
    (hv : v ≠ .null) (hadd : layout.addEntry origin key v = .ok layout')
    (hkey : parseAttribute key = .ok l) : ∃ value, layout' = layout.attach l value := by
  rw [Layout.addEntry_eq] at hadd
  obtain ⟨n, hlisted, rfl⟩ := Except.map_eq_ok_iff.mp hadd
  cases Layout.listed_eq_ok_iff.mp hlisted with
  | group => exact absurd rfl hv
  | valued _ hparse _ =>
      rw [hkey] at hparse
      cases hparse
      exact ⟨_, rfl⟩

/-- **The notations agree.**  Let a path hold no separator, and let a name hold neither a separator
nor a slash and be more than white space.  The text with the name after a slash, with any slashes
and white space after it, is read as an attribute just as the text with the name after the separator
is read: both give the attribute of that name at the end of the path.  So the rule of a row and the
node of a snapshot are at the same location however either spells it.  A text with a separator is
always read as if nothing were known of it.  A text without one is no attribute exactly if it is
blank between its slashes. -/
theorem parseAttribute_notations :
    (∀ path name : String, '#' ∉ path.toList → IsSegment name →
      (∀ gap : String, Gap gap.toList →
        parseAttribute (path ++ "/" ++ name ++ gap) = parse (path ++ "#" ++ name)) ∧
      parse (path ++ "#" ++ name) = .ok (ofAttribute [path] name) ∧
      ∀ text, SpellsAttribute path name text →
        (∀ (row : RowFields) version rule, row.node = text →
          Category.parse? row.category = some .attr → row.rule version = .ok rule →
            rule.location = ofAttribute [path] name) ∧
        ∀ origin (layout layout' : Layout) v, v ≠ .null →
          layout.addEntry origin text v = .ok layout' →
            ∃ value, layout' = layout.attach (ofAttribute [path] name) value) ∧
    (∀ input : String, '#' ∈ input.toList → parseAttribute input = parse input) ∧
    ∀ (input : String) (e : LocationError), '#' ∉ input.toList →
      (parseAttribute input = .error e ↔
        (∀ piece ∈ pieces (· == '/') input.toList, Blank piece) ∧
          e = if Blank input.toList then .empty else .noSegment input) := by
  refine ⟨fun path name hpath hname => ⟨fun gap hgap => ?_, parse_hash hpath hname, ?_⟩,
    fun input => parseAttribute_of_hash, fun input e hhash => parseAttribute_eq_error_iff hhash⟩
  · rw [parseAttribute_slash hpath hname hgap, parse_hash hpath hname]
  · intro text htext
    have hlocation := htext.parseAttribute_eq hpath hname
    refine ⟨?_, fun origin layout layout' v hv hadd => attach_of_addEntry hv hadd hlocation⟩
    rintro row version rule rfl hcategory hrule
    exact location_of_row hcategory hrule hlocation

/-- A row that names an attribute by the last segment of its path. -/
def slashedRow : RowFields :=
  { node := "//how / gain\u00a0// ", category := "Attribute", valueType := "real",
    mandatory := "yes", values := ">0", description := "" }

/-- The rule of the row. -/
def gainRule : Rule :=
  { location := { segments := ["how"], attributeName := some "gain" }
    mandatory := true, constraint := ">0", version := none, kind := some .number
    description := "" }

/-- The layout of a snapshot whose only key names the attribute after the separator. -/
def gainLayout : Layout :=
  { nodes := [
      { location := { segments := ["how"], attributeName := none }
        value := none, implied := true },
      { location := { segments := ["how"], attributeName := some "gain" }
        value := some (.text "high"), implied := false }] }

/-- The row and the key meet, with white space and further slashes in both texts. -/
theorem parseAttribute_notations_gain :
    parseAttribute "//how / gain\u00a0// " = parse "//how # gain\u00a0" ∧
      slashedRow.rule none = .ok gainRule ∧
      Layout.empty.addEntry "snap" "//how # gain\u00a0" (.text "high") = .ok gainLayout ∧
      gainRule.location = ofAttribute ["//how "] " gain\u00a0" ∧
      ∃ value, gainLayout = Layout.empty.attach (ofAttribute ["//how "] " gain\u00a0") value := by
  have hrule : slashedRow.rule none = .ok gainRule := rfl
  have hlayout : Layout.empty.addEntry "snap" "//how # gain\u00a0" (.text "high")
      = .ok gainLayout := Except.toOption_eq_some_iff.mp (by decide +kernel)
  have hname : IsSegment " gain\u00a0" := ⟨by decide, by decide, by decide⟩
  have hslash : "//how " ++ "/" ++ " gain\u00a0" ++ "// " = "//how / gain\u00a0// " := by decide
  have hhash : "//how " ++ "#" ++ " gain\u00a0" = "//how # gain\u00a0" := by decide
  obtain ⟨hagree, -, hmeet⟩ := parseAttribute_notations.1 "//how " " gain\u00a0" (by decide) hname
  have hread := hagree "// " (by decide)
  have hrow := (hmeet _ (.slash (by decide))).1 slashedRow none gainRule hslash.symm (by decide)
  have hkey := (hmeet _ .hash).2 "snap" .empty gainLayout (.text "high") nofun
  rw [hslash, hhash] at hread
  rw [hhash] at hkey
  exact ⟨hread, hrule, hlayout, hrow hrule, hkey hlayout⟩

end RadarConform.Location
