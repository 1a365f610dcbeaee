import RadarConform.Proofs.Computation
import RadarConform.Proofs.Location
import RadarConform.Table.Reader

/-!
# What a row says

A row of a table is a rule in six fields.  Whether the rule is for an attribute follows from the
category of the row, and so does whether the field for the type is read.

* `RowFields.Says` — what a row says about a rule, field by field; `RowFields.rule_eq_ok_iff`: **a
  row is a rule** exactly when it says what the rule says.
* `RowFields.IsContainer` — a row for a group or dataset, which is one whose rule is for no
  attribute.
* `Rule.Typed` — only the rule of an attribute declares a kind, and `Says.typed`: every rule of a
  row does so.
* `Says.retyped` — **the type of a group is not read**, and its possible values are not looked at.
* `Columns.Picks` — the fields of a row in a record, each of them in its column;
  `ruleOfLine_of_split`: **every column is looked up within the record**, or the record is too
  short.
-/

namespace RadarConform

/-- What a row says about a rule, field by field. -/
structure RowFields.Says (row : RowFields) (version : Option Version) (category : Category)
    (rule : Rule) : Prop where
  category_eq : Category.parse? row.category = some category
  location_eq : category.location row.node = .ok rule.location
  /-- Only the row of an attribute may name one. -/
  names : category ≠ .attr → rule.location.isAttribute = false
  mandatory_eq : flag? row.mandatory = some rule.mandatory
  kind_eq : category.kind row.valueType = .ok rule.kind
  constraint_eq : row.values = rule.constraint
  version_eq : version = rule.version
  description_eq : row.description = rule.description

/-- A row for a group or a dataset. -/
def RowFields.IsContainer (row : RowFields) : Prop :=
  Category.parse? row.category = some .group ∨ Category.parse? row.category = some .dataset

/-- A rule that declares a kind of values only if it is for an attribute. -/
def Rule.Typed (r : Rule) : Prop := r.location.isAttribute = false → r.kind = none

variable {row : RowFields} {version : Option Version} {category : Category} {rule : Rule}

/-- **A row is a rule** exactly when it says what the rule says. -/
lemma RowFields.rule_eq_ok_iff :
    row.rule version = .ok rule ↔ ∃ category, row.Says version category rule := by
  rw [RowFields.rule]
  constructor
  · intro h
    split at h
    · cases h
    · next category hcategory =>
        obtain ⟨location, hlocation, h⟩ := Except.bind_eq_ok_iff.mp h
        rw [Except.mapError_eq_ok_iff] at hlocation
        split at h
        · cases h
        · next hnames =>
            split at h
            · cases h
            · next mandatory hmandatory =>
                obtain ⟨kind, hkind, h⟩ := Except.bind_eq_ok_iff.mp h
                cases h
                have hgroup : category ≠ .attr → location.isAttribute = false := by
                  intro hne
                  exact Bool.eq_false_iff.mpr fun hattribute => hnames ⟨hne, hattribute⟩
                exact ⟨category, hcategory, hlocation, hgroup, hmandatory, hkind, rfl, rfl, rfl⟩
  · rintro ⟨category, hcategory, hlocation, hnames, hmandatory, hkind, hconstraint, hversion,
      hdescription⟩
    have hnot : ¬ (category ≠ .attr ∧ rule.location.isAttribute = true) := by
      rintro ⟨hne, hattribute⟩
      rw [hnames hne] at hattribute
      cases hattribute
    simp only [hcategory, hlocation, hnot, hmandatory, hkind, hconstraint, hversion, hdescription,
      Except.mapError_ok, Except.ok_bind, if_false]
    rfl

lemma RowFields.Says.normal (h : row.Says version category rule) : rule.location.Normal := by
  have hlocation := h.location_eq
  rw [Category.location] at hlocation
  split at hlocation
  · exact Location.normal_of_parseAttribute hlocation
  · exact Location.normal_of_parse hlocation

/-! ## The fields of a record -/

/-- The fields of a row as a record holds them.  Only the description may be missing. -/
structure Columns.Picks (c : Columns) (fields : List String) (row : RowFields) : Prop where
  node_eq : fields[c.node]? = some row.node
  category_eq : fields[c.category]? = some row.category
  valueType_eq : fields[c.valueType]? = some row.valueType
  mandatory_eq : fields[c.mandatory]? = some row.mandatory
  values_eq : fields[c.values]? = some row.values
  description_eq : (c.description.bind (fields[·]?)).getD "" = row.description

lemma Columns.width_le_iff {c : Columns} {n : Nat} : c.width ≤ n ↔
    c.node < n ∧ c.category < n ∧ c.valueType < n ∧ c.mandatory < n ∧ c.values < n := by
  rw [Columns.width]
  omega

lemma Columns.pick?_eq_some_iff {c : Columns} {fields : List String} {row : RowFields} :
    c.pick? fields = some row ↔ c.Picks fields row := by
  rw [Columns.pick?]
  constructor
  · intro h
    split at h
    · next hwidth =>
        obtain ⟨hnode, hcategory, htype, hmandatory, hvalues⟩ := Columns.width_le_iff.mp hwidth
        cases h
        exact ⟨List.getElem?_eq_getElem hnode, List.getElem?_eq_getElem hcategory,
          List.getElem?_eq_getElem htype, List.getElem?_eq_getElem hmandatory,
          List.getElem?_eq_getElem hvalues, rfl⟩
    · cases h
  · rintro ⟨hnode, hcategory, htype, hmandatory, hvalues, hdescription⟩
    obtain ⟨hnode, hnode'⟩ := List.getElem?_eq_some_iff.mp hnode
    obtain ⟨hcategory, hcategory'⟩ := List.getElem?_eq_some_iff.mp hcategory
    obtain ⟨htype, htype'⟩ := List.getElem?_eq_some_iff.mp htype
    obtain ⟨hmandatory, hmandatory'⟩ := List.getElem?_eq_some_iff.mp hmandatory
    obtain ⟨hvalues, hvalues'⟩ := List.getElem?_eq_some_iff.mp hvalues
    rw [dif_pos (Columns.width_le_iff.mpr ⟨hnode, hcategory, htype, hmandatory, hvalues⟩)]
    simp only [hnode', hcategory', htype', hmandatory', hvalues', hdescription]

lemma Columns.pick?_eq_none_iff {c : Columns} {fields : List String} :
    c.pick? fields = none ↔ fields.length < c.width := by
  rw [Columns.pick?]
  split
  · next hwidth => exact ⟨nofun, fun hshort => absurd hwidth (Nat.not_le.mpr hshort)⟩
  · next hwidth => exact ⟨fun _ => Nat.not_le.mp hwidth, fun _ => rfl⟩

/-- **Every column of a record is looked up within it**, or the record is too short. -/
lemma ruleOfLine_of_split {line : List Char} {fields : List String}
    (h : Record.split line = .ok fields) (columns : Columns) (version : Option Version) :
    (fields.length < columns.width ∧ ruleOfLine columns version line
        = .error (.tooFewFields columns.width fields.length)) ∨
      ∃ row, columns.Picks fields row ∧ ruleOfLine columns version line = row.rule version := by
  simp only [ruleOfLine, h, Except.mapError_ok, Except.ok_bind]
  cases hpick : columns.pick? fields with
  | none => exact .inl ⟨Columns.pick?_eq_none_iff.mp hpick, rfl⟩
  | some row => exact .inr ⟨row, Columns.pick?_eq_some_iff.mp hpick, rfl⟩

lemma exists_row_of_ruleOfLine {columns : Columns} {line : List Char}
    (h : ruleOfLine columns version line = .ok rule) :
    ∃ row category, RowFields.Says row version category rule := by
  obtain ⟨fields, -, h⟩ := Except.bind_eq_ok_iff.mp h
  split at h
  · cases h
  · next row _ =>
      obtain ⟨category, hsays⟩ := RowFields.rule_eq_ok_iff.mp h
      exact ⟨row, category, hsays⟩

/-! ## Attributes and others -/

lemma RowFields.Says.isContainer_iff (h : row.Says version category rule) :
    row.IsContainer ↔ category ≠ .attr := by
  rw [RowFields.IsContainer, h.category_eq]
  cases category <;> simp

/-- The category of a row and the location of its rule say the same. -/
lemma RowFields.Says.isAttribute_eq_false_iff (h : row.Says version category rule) :
    rule.location.isAttribute = false ↔ row.IsContainer := by
  rw [h.isContainer_iff]
  refine ⟨?_, h.names⟩
  rintro hgroup rfl
  have hlocation := h.location_eq
  rw [Category.location, if_pos rfl] at hlocation
  rw [Location.isAttribute_of_parseAttribute hlocation] at hgroup
  cases hgroup

/-- The type of a group is not read. -/
lemma Category.kind_of_ne_attr (h : category ≠ .attr) (field : String) :
    category.kind field = .ok none := by
  rw [Category.kind, if_pos (.inl h)]

lemma RowFields.Says.typed (h : row.Says version category rule) : rule.Typed := by
  intro hgroup
  have hne := h.isContainer_iff.mp (h.isAttribute_eq_false_iff.mp hgroup)
  have hkind := h.kind_eq
  rw [Category.kind_of_ne_attr hne] at hkind
  exact (Except.ok.inj hkind).symm

/-- **A group may have any type and any possible values**: the rule is the same but for the text of
its constraint. -/
lemma RowFields.Says.retyped (h : row.Says version category rule) (hrow : row.IsContainer)
    (valueType values : String) :
    { row with valueType, values }.Says version category { rule with constraint := values } := by
  have hne := h.isContainer_iff.mp hrow
  have hkind : rule.kind = none := h.typed (h.names hne)
  exact { h with kind_eq := by rw [hkind, Category.kind_of_ne_attr hne], constraint_eq := rfl }

end RadarConform
