import RadarConform.Proofs.Location
import RadarConform.Proofs.Snapshot.Building

/-!
# The layout of a document

A snapshot is a mapping from locations to values.  An entry without a value lists a group, any other
an attribute, and the layout is built from what the entries list.

* `Layout.entryLocation` — the location that an entry names.
* `Layout.listed` — the node that an entry lists; `ofEntries_eq` says that **a mapping is read entry
  by entry**.
* `Layout.Pictures` — **what a layout shows of the entries of a mapping**: which groups it has, once
  each and after those around them, which of these are only implied, and which attributes it has.
* `normal_of_parse` — every location of a layout that is read is normal.
* `pictures_of_parse` — every layout that is read from a text, JSON or YAML, shows the entries of
  its document.

The entries may stand in any order and spell their locations in any way, and a group may be listed
before or after something in it, more than once or not at all.
-/

namespace RadarConform

/-- Whether a value is no value. -/
def Json.isNull : Json → Bool
  | null => true
  | _ => false

lemma Json.eq_null_of_isNull {v : Json} (h : v.isNull = true) : v = .null := by
  cases v with
  | null => rfl
  | bool | integer | real | text | list | record => cases h

/-- A group around a normal location has a normal location. -/
lemma Location.Encloses.normal {g l : Location} (hg : g.Encloses l) (h : l.Normal) : g.Normal where
  segments s hs := h.segments s (hg.2.2.1.subset hs)
  attributeName name hname := by
    rw [hg.1] at hname
    cases hname

namespace Layout

/-- The location that an entry names: that of a group, or of an attribute if it has a value. -/
def entryLocation (entry : String × Json) : Except LocationError Location :=
  if entry.2.isNull then Location.parse entry.1 else Location.parseAttribute entry.1

/-- An entry without a value lists a group. -/
def ListsGroup (entries : List (String × Json)) (l : Location) : Prop :=
  ∃ key, (key, .null) ∈ entries ∧ Location.parse key = .ok l

/-- An attribute as an entry lists it. -/
def ListsAttribute (entry : String × Json) (n : Node) : Prop :=
  Location.parseAttribute entry.1 = .ok n.location ∧
    (∃ value, AttributeValue.ofEntry entry.2 = .ok value ∧ n.value = some value) ∧
    n.implied = false

/-- What a layout shows of the entries of a mapping. -/
structure Pictures (layout : Layout) (entries : List (String × Json)) : Prop where
  /-- Groups have no value, and attributes have one. -/
  typed : ∀ n ∈ layout.nodes, n.value = none ↔ n.location.isAttribute = false
  /-- No two groups have the same location. -/
  distinct : layout.nodes.Pairwise fun n k =>
    n.value = none → k.value = none → n.location ≠ k.location
  /-- Every node stands after the groups around it. -/
  enclosed : ∀ before n after, layout.nodes = before ++ n :: after →
    ∀ g : Location, g.Encloses n.location → ∃ k ∈ before, k.value = none ∧ k.location = g
  /-- A group is implied exactly when no entry lists it. -/
  implied_iff : ∀ n ∈ layout.nodes, n.value = none →
    (n.implied = true ↔ ¬ ListsGroup entries n.location)
  /-- A group is listed, or encloses something that is. -/
  accounted : ∀ n ∈ layout.nodes, n.value = none →
    ListsGroup entries n.location ∨
      ∃ entry ∈ entries, ∃ l, entryLocation entry = .ok l ∧ n.location.Encloses l
  /-- The attributes are those of the entries with a value, in the order of the entries. -/
  attributes : List.Forall₂ ListsAttribute (entries.filter (!·.2.isNull))
    (layout.nodes.filter (·.location.isAttribute))

/-! ## Entries and listed nodes -/

/-- What an entry lists. -/
inductive Lists : String × Json → Node → Prop
  | group {key : String} {location : Location} : key.toList.contains '#' = false →
      Location.parse key = .ok location →
      Lists (key, .null) { location, value := none, implied := false }
  | valued {key : String} {v : Json} {location : Location} {value : AttributeValue} :
      v.isNull = false → Location.parseAttribute key = .ok location →
      AttributeValue.ofEntry v = .ok value →
      Lists (key, v) { location, value := some value, implied := false }

variable {entry : String × Json} {n : Node}

lemma Lists.listable (h : Lists entry n) : Listable n := by
  cases h with
  | group hkey hparse => exact ⟨(Location.isAttribute_of_parse hparse).trans hkey, rfl⟩
  | valued _ hparse _ => exact ⟨Location.isAttribute_of_parseAttribute hparse, rfl⟩

lemma Lists.entryLocation (h : Lists entry n) : entryLocation entry = .ok n.location := by
  cases h with
  | group _ hparse => exact hparse
  | valued hvalue hparse _ =>
      rw [Layout.entryLocation, hvalue]
      exact hparse

lemma Lists.normal (h : Lists entry n) : n.location.Normal := by
  cases h with
  | group _ hparse => exact Location.normal_of_parse hparse
  | valued _ hparse _ => exact Location.normal_of_parseAttribute hparse

lemma Lists.isNull (h : Lists entry n) : entry.2.isNull = n.value.isNone := by
  cases h with
  | group => rfl
  | valued hvalue => exact hvalue

/-- The node that an entry lists, or what is wrong with the entry. -/
def listed (path : String) (entry : String × Json) : Except LayoutError Node :=
  if entry.2.isNull then
    if entry.1.toList.contains '#' then .error (.value path entry.1 .valueMissing)
    else (Location.parse entry.1).mapError (.location path entry.1) |>.map fun location =>
      { location, value := none, implied := false }
  else do
    let location ← (Location.parseAttribute entry.1).mapError (.location path entry.1)
    let value ← (AttributeValue.ofEntry entry.2).mapError (.value path entry.1)
    return { location, value := some value, implied := false }

lemma listed_eq_ok_iff {path : String} : listed path entry = .ok n ↔ Lists entry n := by
  obtain ⟨key, v⟩ := entry
  cases hv : v.isNull with
  | true =>
      obtain rfl := Json.eq_null_of_isNull hv
      simp only [listed, Json.isNull, if_true]
      constructor
      · intro h
        split at h
        · cases h
        · next hkey =>
            obtain ⟨location, hparse, rfl⟩ := Except.map_eq_ok_iff.mp h
            exact .group (Bool.eq_false_iff.mpr hkey) (Except.mapError_eq_ok_iff.mp hparse)
      · intro h
        cases h with
        | group hkey hparse =>
            rw [if_neg (Bool.eq_false_iff.mp hkey), hparse]
            rfl
        | valued hvalue => cases hvalue
  | false =>
      simp only [listed, hv, Bool.false_eq_true, if_false, Except.bind_eq_ok_iff,
        Except.mapError_eq_ok_iff]
      constructor
      · rintro ⟨location, hparse, value, hvalue, heq⟩
        cases heq
        exact .valued hv hparse hvalue
      · intro h
        cases h with
        | group => cases hv
        | valued _ hparse hvalue => exact ⟨_, hparse, _, hvalue, rfl⟩

/-- **An entry is read on its own**, and the layout built so far only takes in what it lists. -/
lemma addEntry_eq (path key : String) (l : Layout) (v : Json) :
    l.addEntry path key v = (listed path (key, v)).map l.enter := by
  cases v with
  | null =>
      simp only [addEntry, listed, Json.isNull, if_true]
      split
      · rfl
      · cases Location.parse key with
        | error e => rfl
        | ok location => rfl
  | bool | integer | real | text | list | record =>
      simp only [addEntry, listed, Json.isNull, Bool.false_eq_true, if_false]
      cases Location.parseAttribute key with
      | error e => rfl
      | ok location =>
          simp only [Except.mapError_ok, Except.ok_bind]
          generalize AttributeValue.ofEntry _ = value
          cases value with
          | error e => rfl
          | ok value => rfl

/-- **A mapping is read entry by entry**, and what the entries list is then entered in turn. -/
lemma ofEntries_eq (path : String) (entries : List (String × Json)) (l : Layout) :
    ofEntries path l entries = (entries.mapM (listed path)).map fun ns => ns.foldl enter l := by
  induction entries generalizing l with
  | nil => rfl
  | cons entry rest ih =>
      obtain ⟨key, v⟩ := entry
      rw [ofEntries, addEntry_eq, List.mapM_cons]
      cases listed path (key, v) with
      | error e => rfl
      | ok n =>
          simp only [Except.map_ok_eq, Except.ok_bind, ih]
          cases rest.mapM (listed path) with
          | error e => rfl
          | ok later => rfl

/-- A mapping is read exactly when its entries list nodes, which are then entered in turn. -/
lemma ofEntries_eq_ok_iff {path : String} {entries : List (String × Json)} {l l' : Layout} :
    ofEntries path l entries = .ok l' ↔
      ∃ ns, List.Forall₂ Lists entries ns ∧ ns.foldl enter l = l' := by
  simp only [ofEntries_eq, Except.map_eq_ok_iff, Except.mapM_eq_ok_iff, listed_eq_ok_iff]

/-- **A text is read** exactly when its document is a mapping whose entries list nodes. -/
lemma parse_eq_ok_iff {text path : String} {format : SnapshotFormat} {layout : Layout} :
    Layout.parse text format path = .ok layout ↔
      ∃ entries, format.document text = .ok (.record entries) ∧
        ∃ ns, List.Forall₂ Lists entries ns ∧ build ns = layout := by
  simp only [Layout.parse, Except.bind_eq_ok_iff, Except.mapError_eq_ok_iff]
  constructor
  · rintro ⟨document, hdocument, h⟩
    cases document with
    | record entries => exact ⟨entries, hdocument, ofEntries_eq_ok_iff.mp h⟩
    | null | bool | integer | real | text | list => cases h
  · rintro ⟨entries, hdocument, h⟩
    exact ⟨_, hdocument, ofEntries_eq_ok_iff.mpr h⟩

/-! ## What the layout shows -/

variable {entries : List (String × Json)} {ns : List Node}

lemma listable_of_lists (h : List.Forall₂ Lists entries ns) : ∀ n ∈ ns, Listable n := by
  intro n hn
  obtain ⟨entry, -, hlists⟩ := exists_of_forall₂ h.flip hn
  exact hlists.listable

/-- The listed groups are those of the entries without a value. -/
lemma mem_groupsOf_iff_listsGroup (h : List.Forall₂ Lists entries ns) {g : Location} :
    g ∈ groupsOf ns ↔ ListsGroup entries g := by
  rw [mem_groupsOf_iff]
  constructor
  · rintro ⟨n, hn, hvalue, rfl⟩
    obtain ⟨entry, hentry, hlists⟩ := exists_of_forall₂ h.flip hn
    cases hlists with
    | @group key _ _ hparse => exact ⟨key, hentry, hparse⟩
    | valued => cases hvalue
  · rintro ⟨key, hentry, hparse⟩
    obtain ⟨n, hn, hlists⟩ := exists_of_forall₂ h hentry
    cases hlists with
    | group _ hparse' =>
        rw [hparse] at hparse'
        cases hparse'
        exact ⟨_, hn, rfl, rfl⟩
    | valued hvalue => cases hvalue

/-- The entries with a value list the nodes with a value, in the same order. -/
lemma forall₂_listsAttribute (h : List.Forall₂ Lists entries ns) :
    List.Forall₂ ListsAttribute (entries.filter (!·.2.isNull)) (ns.filter (·.value.isSome)) := by
  induction h with
  | nil => exact .nil
  | @cons entry n rest ns hlists _ ih =>
      rw [List.filter_cons, List.filter_cons, hlists.isNull]
      cases hlists with
      | group => exact ih
      | valued hvalue hparse hof => exact .cons ⟨hparse, ⟨_, hof, rfl⟩, rfl⟩ ih

/-- A group of the layout is listed by an entry, or something listed lies in it. -/
lemma accounted_of_lists (h : List.Forall₂ Lists entries ns) {n : Node}
    (hn : n ∈ (build ns).nodes) (hvalue : n.value = none) : ListsGroup entries n.location ∨
      ∃ entry ∈ entries, ∃ l, entryLocation entry = .ok l ∧ n.location.Encloses l := by
  have hlistable := listable_of_lists h
  have hmem : n.location ∈ (build ns).locations := List.mem_map_of_mem hn
  obtain ⟨k, hk, heq | hencloses⟩ := (mem_locations_build_iff hlistable).mp hmem
  · -- The listed node stands at the location of a group, so it has no value either.
    have hgroup := ((tidy_build hlistable).value_eq_none_iff hn).mp hvalue
    rw [← heq, (hlistable k hk).1, Option.isSome_eq_false_iff, Option.isNone_iff_eq_none] at hgroup
    exact .inl ((mem_groupsOf_iff_listsGroup h).mp (mem_groupsOf_iff.mpr ⟨k, hk, hgroup, heq⟩))
  · obtain ⟨entry, hentry, hlists⟩ := exists_of_forall₂ h.flip hk
    exact .inr ⟨entry, hentry, _, hlists.entryLocation, hencloses⟩

/-- **Every location of a layout that is read is normal**, also where the group is only implied. -/
lemma normal_of_parse {text path : String} {format : SnapshotFormat} {layout : Layout}
    (h : Layout.parse text format path = .ok layout) : ∀ n ∈ layout.nodes, n.location.Normal := by
  obtain ⟨entries, -, ns, hlists, rfl⟩ := parse_eq_ok_iff.mp h
  intro n hn
  have hmem : n.location ∈ (build ns).locations := List.mem_map_of_mem hn
  obtain ⟨k, hk, hlocation⟩ := (mem_locations_build_iff (listable_of_lists hlists)).mp hmem
  obtain ⟨entry, -, hlist⟩ := exists_of_forall₂ hlists.flip hk
  rcases hlocation with heq | hencloses
  · rw [← heq]
    exact hlist.normal
  · exact hencloses.normal hlist.normal

/-- **The layout that is built from what entries list shows the entries.** -/
lemma pictures_build (h : List.Forall₂ Lists entries ns) : (build ns).Pictures entries := by
  have htidy := tidy_build (listable_of_lists h)
  have hmarked : ∀ n ∈ (build ns).nodes, n.value = none →
      (n.implied = true ↔ ¬ ListsGroup entries n.location) := by
    intro n hn hvalue
    rw [htidy.marked_iff n hn hvalue, mem_groupsOf_iff_listsGroup h]
  have hattributes : (build ns).nodes.filter (·.location.isAttribute)
      = ns.filter (·.value.isSome) := by
    rw [← htidy.attributes]
    exact List.filter_congr fun n hn => htidy.typed n hn
  exact {
    typed := fun n hn => htidy.value_eq_none_iff hn
    distinct := htidy.distinct_groups
    enclosed := fun before n after hnodes g hg => htidy.enclosing_mem hnodes hg
    implied_iff := hmarked
    accounted := fun n hn hvalue => accounted_of_lists h hn hvalue
    attributes := by
      rw [hattributes]
      exact forall₂_listsAttribute h }

/-- **Every accepted snapshot is shown by its layout.**  A text in either format that is read has a
mapping as its document, and the layout shows the entries of that mapping. -/
theorem pictures_of_parse {text path : String} {format : SnapshotFormat} {layout : Layout}
    (h : Layout.parse text format path = .ok layout) :
    ∃ entries, format.document text = .ok (.record entries) ∧ layout.Pictures entries := by
  obtain ⟨entries, hdocument, ns, hlists, rfl⟩ := parse_eq_ok_iff.mp h
  exact ⟨entries, hdocument, pictures_build hlists⟩

/-- A snapshot that lists an attribute, and after it one of the two groups around it in another
spelling. -/
def lateGroupText : String := "\x7b\"/how/scan#task\": \"rain\", \"//how/ \": null\x7d"

/-- Its layout: the outer group is listed, the inner one only implied. -/
def lateGroupLayout : Layout :=
  { nodes := [
      { location := { segments := ["how"], attributeName := none }
        value := none, implied := false },
      { location := { segments := ["how", "scan"], attributeName := none }
        value := none, implied := true },
      { location := { segments := ["how", "scan"], attributeName := some "task" }
        value := some (.text "rain"), implied := false }] }

theorem pictures_of_parse_lateGroupText :
    Layout.parse lateGroupText .json "snap" = .ok lateGroupLayout ∧
      ∃ entries, SnapshotFormat.document .json lateGroupText = .ok (.record entries) ∧
        lateGroupLayout.Pictures entries := by
  have h : Layout.parse lateGroupText .json "snap" = .ok lateGroupLayout :=
    Except.toOption_eq_some_iff.mp (by decide +kernel)
  exact ⟨h, pictures_of_parse h⟩

end Layout

end RadarConform
