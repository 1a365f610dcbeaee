import Mathlib.Data.List.Infix
import Mathlib.Data.List.Nodup
import RadarConform.Snapshot.Reader

/-!
# Building a layout

A layout is built by entering one listed node after another.  Before a node is entered, the groups
that it lies in are, as far as they are not there yet; a group that turns out to be listed later
loses the mark of being implied.

* `Location.Encloses` — a group, other than the root, in which a node lies.
* `Layout.enter`, `Layout.build` — a layout with one more listed node, and the layout of a list of
  them.
* `Layout.Tidy` — **the invariant** that relates a layout and the nodes listed so far.
* `tidy_build` — it holds of every layout that is built.
* `mem_locations_build_iff` — the locations of a layout are those listed and those of the groups in
  which something listed lies.

The places of nodes and the repetition of groups depend on locations only (`Orderly`), which are
not changed when a group loses its mark.  So the order is settled for lists of locations, and only
the mark needs the nodes.
-/

namespace RadarConform

/-! ## Groups around a node -/

/-- A group, other than the root, in which a node lies without being it.  The group to which an
attribute is attached is one of them. -/
def Location.Encloses (g l : Location) : Prop :=
  g.attributeName = none ∧ g.segments ≠ [] ∧ g.segments <+: l.segments ∧ g ≠ l

/-- The segments of the innermost group around a node. -/
def Location.around (l : Location) : List String :=
  if l.isAttribute then l.segments else l.segments.dropLast

namespace Layout

lemma mem_path_iff {segments : List String} {g : Location} :
    g ∈ path segments ↔ g.attributeName = none ∧ g.segments ≠ [] ∧ g.segments <+: segments := by
  simp only [path, List.mem_map, List.mem_range]
  constructor
  · rintro ⟨n, hn, rfl⟩
    refine ⟨rfl, ?_, List.take_prefix _ _⟩
    simp only [ne_eq, List.take_eq_nil_iff, not_or]
    exact ⟨Nat.succ_ne_zero n, List.ne_nil_of_length_pos (by omega)⟩
  · rintro ⟨hname, hne, hprefix⟩
    have hpos := List.length_pos_iff.mpr hne
    have hlength := hprefix.length_le
    refine ⟨g.segments.length - 1, by omega, ?_⟩
    rw [Nat.sub_add_cancel hpos, ← List.prefix_iff_eq_take.mp hprefix, ← hname]

/-- The path to a group ends with the group. -/
lemma path_concat (segments : List String) (s : String) :
    path (segments ++ [s])
      = path segments ++ [{ segments := segments ++ [s], attributeName := none }] := by
  simp only [path, List.length_append, List.length_singleton, List.range_succ, List.map_append,
    List.map_singleton]
  congr 1
  · refine List.map_congr_left fun n hn => ?_
    rw [List.take_append_of_le_length (List.mem_range.mp hn)]
  · rw [List.take_of_length_le (by simp)]

lemma prefix_dropLast_iff {u v : List String} (hu : u ≠ []) :
    u <+: v.dropLast ↔ u <+: v ∧ u ≠ v := by
  constructor
  · intro h
    refine ⟨h.trans (List.dropLast_prefix v), ?_⟩
    rintro rfl
    have hlength := h.length_le
    have hpos := List.length_pos_iff.mpr hu
    rw [List.length_dropLast] at hlength
    omega
  · rintro ⟨⟨t, rfl⟩, hne⟩
    rw [List.dropLast_append_of_ne_nil (by simpa using hne)]
    exact List.prefix_append u _

/-- The groups that are put before a node are those that enclose it. -/
lemma mem_path_around_iff {g l : Location} : g ∈ path l.around ↔ g.Encloses l := by
  obtain ⟨segments, name⟩ := l
  obtain ⟨segments', name'⟩ := g
  rw [mem_path_iff]
  cases name with
  | some name =>
      simp only [Location.Encloses, Location.around, Location.isAttribute, Option.isSome_some,
        if_true, ne_eq, Location.mk.injEq]
      refine and_congr_right fun hname => ?_
      simp [hname]
  | none =>
      simp only [Location.Encloses, Location.around, Location.isAttribute, Option.isSome_none,
        Bool.false_eq_true, if_false, ne_eq, Location.mk.injEq]
      refine and_congr_right fun hname => and_congr_right fun hne => ?_
      simp [hname, prefix_dropLast_iff hne]

/-! ## Locations in order -/

/-- Locations in which no group is repeated and every location stands after the groups around
it. -/
structure Orderly (ls : List Location) : Prop where
  distinct : (ls.filter (!·.isAttribute)).Nodup
  enclosed : ∀ before l, before ++ [l] <+: ls → ∀ g : Location, g.Encloses l → g ∈ before

lemma orderly_nil : Orderly [] :=
  ⟨List.nodup_nil, fun before l h => by simp at h⟩

/-- A location may come next if it is no repeated group and the groups around it are there. -/
lemma Orderly.concat {ls : List Location} (h : Orderly ls) {l : Location}
    (hnew : l.isAttribute = false → l ∉ ls) (haround : ∀ g : Location, g.Encloses l → g ∈ ls) :
    Orderly (ls ++ [l]) := by
  constructor
  · rw [List.filter_append]
    cases hl : l.isAttribute with
    | true => simpa [hl] using h.distinct
    | false =>
        rw [List.filter_singleton, hl, Bool.not_false, cond_true, ← List.concat_eq_append]
        refine h.distinct.concat fun hmem => ?_
        exact hnew hl (List.mem_filter.mp hmem).1
  · intro before k hprefix g hg
    rcases List.prefix_concat_iff.mp hprefix with heq | hprefix
    · obtain ⟨hbefore, hl⟩ := List.append_inj' heq rfl
      cases hl
      rw [hbefore]
      exact haround g hg
    · exact h.enclosed before k hprefix g hg

/-! ## Operations on layouts -/

/-- The locations of the nodes, in order. -/
def locations (l : Layout) : List Location := l.nodes.map (·.location)

lemma hasNode_iff {l : Layout} {location : Location} :
    l.hasNode location = true ↔ location ∈ l.locations := by
  simp [hasNode, locations]

lemma locations_push (l : Layout) (n : Node) : (l.push n).locations = l.locations ++ [n.location] := by
  simp [push, locations]

/-- What is there is left alone, and what is not is put at the end with the mark. -/
lemma imply_cases (l : Layout) (g : Location) :
    g ∈ l.locations ∧ l.imply g = l ∨
      g ∉ l.locations ∧ l.imply g = l.push { location := g, value := none, implied := true } := by
  rw [imply]
  split
  · next h => exact .inl ⟨hasNode_iff.mp h, rfl⟩
  · next h => exact .inr ⟨fun hmem => h (hasNode_iff.mpr hmem), rfl⟩

lemma mem_locations_imply {l : Layout} {g k : Location} :
    k ∈ (l.imply g).locations ↔ k ∈ l.locations ∨ k = g := by
  rcases imply_cases l g with ⟨hg, heq⟩ | ⟨-, heq⟩
  · rw [heq]
    constructor
    · exact .inl
    · rintro (hk | rfl)
      · exact hk
      · exact hg
  · rw [heq, locations_push, List.mem_append, List.mem_singleton]

lemma implyPath_concat (l : Layout) (segments : List String) (s : String) :
    l.implyPath (segments ++ [s])
      = (l.implyPath segments).imply { segments := segments ++ [s], attributeName := none } := by
  rw [implyPath, path_concat, List.foldl_append]
  rfl

lemma mem_locations_implyPath {l : Layout} {segments : List String} {k : Location} :
    k ∈ (l.implyPath segments).locations ↔ k ∈ l.locations ∨ k ∈ path segments := by
  induction segments using List.reverseRecOn with
  | nil => simp [implyPath, path]
  | append_singleton segments s ih =>
      rw [implyPath_concat, mem_locations_imply, ih, path_concat, List.mem_append,
        List.mem_singleton, or_assoc]

/-! ## Entering listed nodes -/

/-- A layout with one more listed node. -/
def enter (l : Layout) (n : Node) : Layout :=
  match n.value with
  | none => l.list n.location
  | some value => l.attach n.location value

/-- The layout of listed nodes. -/
def build (ns : List Node) : Layout := ns.foldl enter empty

lemma build_concat (ns : List Node) (n : Node) : build (ns ++ [n]) = (build ns).enter n := by
  rw [build, List.foldl_append]
  rfl

/-- The mark of a group that is listed is taken off. -/
def unmark (l : Layout) (location : Location) : Layout :=
  { nodes := l.nodes.map fun n => if n.location = location then { n with implied := false } else n }

/-- Entering a node puts the groups around it first, and then either takes the mark off a group or
puts the node at the end. -/
lemma enter_cases (l : Layout) {n : Node} (hn : n.location.isAttribute = n.value.isSome)
    (himplied : n.implied = false) :
    (n.value = none ∧ n.location ∈ (l.implyPath n.location.around).locations ∧
        l.enter n = (l.implyPath n.location.around).unmark n.location) ∨
      ((n.location.isAttribute = false → n.location ∉ (l.implyPath n.location.around).locations) ∧
        l.enter n = (l.implyPath n.location.around).push n) := by
  obtain ⟨location, value, implied⟩ := n
  subst himplied
  cases value with
  | some value =>
      refine .inr ⟨fun hgroup => ?_, ?_⟩
      · rw [hgroup] at hn
        cases hn
      · rw [Location.around, hn]
        rfl
  | none =>
      rw [Location.around, hn]
      simp only [enter, list, Option.isSome_none, Bool.false_eq_true, if_false]
      split
      · next h => exact .inl ⟨trivial, hasNode_iff.mp h, rfl⟩
      · next h => exact .inr ⟨fun _ hmem => h (hasNode_iff.mpr hmem), rfl⟩

lemma locations_unmark (l : Layout) (location : Location) :
    (l.unmark location).locations = l.locations := by
  simp only [unmark, locations, List.map_map]
  refine List.map_congr_left fun n _ => ?_
  simp only [Function.comp_apply]
  split <;> rfl

/-! ## The invariant -/

/-- The locations of the groups among listed nodes. -/
def groupsOf (ns : List Node) : List Location :=
  (ns.filter (·.value.isNone)).map (·.location)

lemma mem_groupsOf_iff {ns : List Node} {g : Location} :
    g ∈ groupsOf ns ↔ ∃ n ∈ ns, n.value = none ∧ n.location = g := by
  simp [groupsOf, and_assoc]

lemma mem_groupsOf_concat_iff {ns : List Node} {n : Node} {g : Location} :
    g ∈ groupsOf (ns ++ [n]) ↔ g ∈ groupsOf ns ∨ n.value = none ∧ n.location = g := by
  simp [mem_groupsOf_iff, or_and_right, exists_or]

/-- A layout and the nodes listed so far: attributes and no others have values and stand in the
order in which they were listed; locations are in order; listed groups are there, and the mark is on
the others. -/
structure Tidy (ns : List Node) (l : Layout) : Prop where
  typed : ∀ n ∈ l.nodes, n.location.isAttribute = n.value.isSome
  orderly : Orderly l.locations
  marked_iff : ∀ n ∈ l.nodes, n.value = none → (n.implied = true ↔ n.location ∉ groupsOf ns)
  complete : ∀ g ∈ groupsOf ns, g ∈ l.locations
  attributes : l.nodes.filter (·.value.isSome) = ns.filter (·.value.isSome)

lemma tidy_empty : Tidy [] empty where
  typed := nofun
  orderly := orderly_nil
  marked_iff := nofun
  complete := nofun
  attributes := rfl

variable {ns : List Node} {l : Layout}

/-- A group that is implied keeps the invariant, if the groups around it are there. -/
lemma Tidy.imply (h : Tidy ns l) {g : Location} (hg : g.isAttribute = false)
    (haround : ∀ k : Location, k.Encloses g → k ∈ l.locations) : Tidy ns (l.imply g) := by
  rcases imply_cases l g with ⟨-, heq⟩ | ⟨hnew, heq⟩
  · rw [heq]
    exact h
  · rw [heq]
    constructor
    · exact List.forall_mem_append.mpr ⟨h.typed, List.forall_mem_singleton.mpr hg⟩
    · rw [locations_push]
      exact h.orderly.concat (fun _ => hnew) haround
    · refine List.forall_mem_append.mpr ⟨h.marked_iff, List.forall_mem_singleton.mpr fun _ => ?_⟩
      simpa using fun hmem => hnew (h.complete g hmem)
    · intro k hk
      rw [locations_push]
      exact List.mem_append_left _ (h.complete k hk)
    · simpa [push] using h.attributes

/-- **The groups on the way** are put from the outermost to the innermost, so each finds those
around it. -/
lemma Tidy.implyPath (h : Tidy ns l) (segments : List String) : Tidy ns (l.implyPath segments) := by
  induction segments using List.reverseRecOn with
  | nil => exact h
  | append_singleton segments s ih =>
      rw [implyPath_concat]
      refine ih.imply rfl fun k hk => ?_
      rw [← mem_path_around_iff, Location.around, Location.isAttribute, Option.isSome_none,
        if_neg Bool.false_ne_true, List.dropLast_concat] at hk
      exact mem_locations_implyPath.mpr (.inr hk)

variable {n : Node}

/-- Groups have no value, and attributes have one. -/
lemma Tidy.value_eq_none_iff (h : Tidy ns l) (hn : n ∈ l.nodes) :
    n.value = none ↔ n.location.isAttribute = false := by
  rw [h.typed n hn, Option.isSome_eq_false_iff, Option.isNone_iff_eq_none]

/-- No two groups have the same location. -/
lemma Tidy.distinct_groups (h : Tidy ns l) :
    l.nodes.Pairwise fun n k => n.value = none → k.value = none → n.location ≠ k.location := by
  have hdistinct := h.orderly.distinct
  rw [List.Nodup, List.pairwise_filter, locations, List.pairwise_map] at hdistinct
  refine hdistinct.imp_of_mem fun {n k} hn hk hne hnone hnone' => hne ?_ ?_
  · rw [(h.value_eq_none_iff hn).mp hnone, Bool.not_false]
  · rw [(h.value_eq_none_iff hk).mp hnone', Bool.not_false]

/-- The groups around a node stand before it. -/
lemma Tidy.enclosing_mem (h : Tidy ns l) {before after : List Node}
    (hnodes : l.nodes = before ++ n :: after) {g : Location} (hg : g.Encloses n.location) :
    ∃ k ∈ before, k.value = none ∧ k.location = g := by
  have hprefix : before.map (·.location) ++ [n.location] <+: l.locations :=
    ⟨after.map (·.location), by simp [locations, hnodes]⟩
  obtain ⟨k, hk, rfl⟩ := List.mem_map.mp (h.orderly.enclosed _ _ hprefix g hg)
  refine ⟨k, hk, (h.value_eq_none_iff ?_).mpr ?_, rfl⟩
  · rw [hnodes]
    exact List.mem_append_left _ hk
  · rw [Location.isAttribute, hg.1]
    rfl

/-- A listed node may come last if it is no repeated group and the groups around it are there. -/
lemma Tidy.push (h : Tidy ns l) (hn : n.location.isAttribute = n.value.isSome)
    (himplied : n.implied = false) (hnew : n.location.isAttribute = false → n.location ∉ l.locations)
    (haround : ∀ g : Location, g.Encloses n.location → g ∈ l.locations) :
    Tidy (ns ++ [n]) (l.push n) := by
  constructor
  · exact List.forall_mem_append.mpr ⟨h.typed, List.forall_mem_singleton.mpr hn⟩
  · rw [locations_push]
    exact h.orderly.concat hnew haround
  · refine List.forall_mem_append.mpr ⟨fun k hk hvalue => ?_, List.forall_mem_singleton.mpr ?_⟩
    · rw [h.marked_iff k hk hvalue, mem_groupsOf_concat_iff, not_or, iff_self_and]
      rintro - ⟨hnone, heq⟩
      refine hnew (by rw [hn, hnone]; rfl) (heq ▸ ?_)
      exact List.mem_map_of_mem hk
    · intro hnone
      simp [himplied, mem_groupsOf_concat_iff, hnone]
  · intro g hg
    rw [locations_push, List.mem_append, List.mem_singleton]
    exact (mem_groupsOf_concat_iff.mp hg).imp (h.complete g) fun heq => heq.2.symm
  · simp [Layout.push, h.attributes]

/-- A group that is there and is listed now loses its mark. -/
lemma Tidy.unmark (h : Tidy ns l) (hvalue : n.value = none)
    (hn : n.location.isAttribute = n.value.isSome) (hmem : n.location ∈ l.locations) :
    Tidy (ns ++ [n]) (l.unmark n.location) := by
  constructor
  · refine List.forall_mem_map.mpr fun k hk => ?_
    split
    · exact h.typed k hk
    · exact h.typed k hk
  · rw [locations_unmark]
    exact h.orderly
  · refine List.forall_mem_map.mpr fun k hk => ?_
    split
    · next heq =>
        intro _
        simp [heq, mem_groupsOf_concat_iff, hvalue]
    · next hne =>
        intro hnone
        rw [h.marked_iff k hk hnone, mem_groupsOf_concat_iff, not_or, iff_self_and]
        exact fun _ heq => hne heq.2.symm
  · intro g hg
    rw [locations_unmark]
    rcases mem_groupsOf_concat_iff.mp hg with hg | ⟨-, rfl⟩
    · exact h.complete g hg
    · exact hmem
  · -- An attribute stands at no group's location, so none of them is changed.
    have hsame : ∀ k ∈ l.nodes.filter (·.value.isSome),
        (if k.location = n.location then { k with implied := false } else k) = k := by
      intro k hk
      obtain ⟨hk, hsome⟩ := List.mem_filter.mp hk
      refine if_neg fun heq => ?_
      rw [← h.typed k hk, heq, hn, hvalue] at hsome
      cases hsome
    have htest : ((fun k : Node => k.value.isSome) ∘ fun k =>
        if k.location = n.location then { k with implied := false } else k)
          = fun k => k.value.isSome := by
      funext k
      simp only [Function.comp_apply]
      split <;> rfl
    rw [Layout.unmark, List.filter_map, htest, List.map_congr_left hsame, List.map_id',
      h.attributes]
    simp [hvalue]

lemma Tidy.enter (h : Tidy ns l) (hn : n.location.isAttribute = n.value.isSome)
    (himplied : n.implied = false) : Tidy (ns ++ [n]) (l.enter n) := by
  have hpath := h.implyPath n.location.around
  rcases enter_cases l hn himplied with ⟨hvalue, hmem, heq⟩ | ⟨hnew, heq⟩
  · rw [heq]
    exact hpath.unmark hvalue hn hmem
  · rw [heq]
    refine hpath.push hn himplied hnew fun g hg => ?_
    exact mem_locations_implyPath.mpr (.inr (mem_path_around_iff.mpr hg))

/-! ## Layouts that are built -/

/-- A node as it is listed: attributes and no others have values, and nothing is implied. -/
def Listable (n : Node) : Prop := n.location.isAttribute = n.value.isSome ∧ n.implied = false

/-- **The invariant holds of every layout that is built.** -/
lemma tidy_build (h : ∀ n ∈ ns, Listable n) : Tidy ns (build ns) := by
  -- The induction is on what has been listed so far: each step enters the last of it.
  induction ns using List.reverseRecOn with
  | nil => exact tidy_empty
  | append_singleton ns n ih =>
      rw [List.forall_mem_append, List.forall_mem_singleton] at h
      rw [build_concat]
      exact (ih h.1).enter h.2.1 h.2.2

/-- **The locations of a layout** are those listed and those of the groups in which something listed
lies. -/
lemma mem_locations_build_iff (h : ∀ n ∈ ns, Listable n) {g : Location} :
    g ∈ (build ns).locations ↔ ∃ n ∈ ns, n.location = g ∨ g.Encloses n.location := by
  induction ns using List.reverseRecOn with
  | nil => simp [build, empty, locations]
  | append_singleton ns n ih =>
      rw [List.forall_mem_append, List.forall_mem_singleton] at h
      have hentered : g ∈ ((build ns).enter n).locations ↔
          g ∈ ((build ns).implyPath n.location.around).locations ∨ n.location = g := by
        rcases enter_cases (build ns) h.2.1 h.2.2 with ⟨-, hmem, heq⟩ | ⟨-, heq⟩
        · rw [heq, locations_unmark, iff_self_or]
          rintro rfl
          exact hmem
        · rw [heq, locations_push, List.mem_append, List.mem_singleton, eq_comm (a := g)]
      rw [build_concat, hentered, mem_locations_implyPath, ih h.1, mem_path_around_iff]
      simp only [List.mem_append, List.mem_singleton, or_and_right, exists_or, exists_eq_left]
      rw [or_assoc, or_comm (a := g.Encloses n.location)]

end Layout

end RadarConform
