import Mathlib.Data.List.Perm.Basic
import RadarConform.Proofs.Snapshot.Document

/-!
# The order of entries

A mapping is a list of entries only because a text has an order.  Which entry comes first decides
which step puts a group into the layout and whether the group has the mark of being implied at that
time, but not what the layout holds in the end.

* `mem_build_iff_of_group` — the groups of a layout and their marks, told by the listed nodes as a
  set.
* `perm_build` — listed nodes in any order build the same nodes in some order.
* `ofDocument_perm` — **the order of entries matters for the order of nodes only**.

The groups are compared as a set, since each stands in a layout once, and the attributes as a list,
since each of them is put at the end when it is listed.
-/

namespace RadarConform

open scoped List

namespace Layout

/-! ## Groups as a set -/

variable {ns ns' : List Node}

/-- **The groups of a layout.**  A group is there when it is listed or something listed lies in it,
and it has the mark when it is not listed. -/
lemma mem_build_iff_of_group (h : ∀ n ∈ ns, Listable n) {g : Node} (hvalue : g.value = none) :
    g ∈ (build ns).nodes ↔ g.location.isAttribute = false ∧
      (∃ n ∈ ns, n.location = g.location ∨ g.location.Encloses n.location) ∧
      (g.implied = true ↔ g.location ∉ groupsOf ns) := by
  have htidy := tidy_build h
  rw [← mem_locations_build_iff h]
  constructor
  · intro hg
    exact ⟨(htidy.value_eq_none_iff hg).mp hvalue, List.mem_map_of_mem hg,
      htidy.marked_iff g hg hvalue⟩
  · rintro ⟨hgroup, hmem, hmarked⟩
    obtain ⟨k, hk, hlocation⟩ := List.mem_map.mp hmem
    -- The node at the location of the group is the group itself: it has no value and its mark.
    have hnone : k.value = none := by
      rw [htidy.value_eq_none_iff hk, hlocation, hgroup]
    have hsame : k.implied = g.implied := by
      rw [Bool.eq_iff_iff, htidy.marked_iff k hk hnone, hmarked, hlocation]
    have heq : k = g := by
      cases k
      cases g
      simp_all
    rwa [← heq]

/-- No group stands in a layout twice. -/
lemma nodup_groups_build (h : ∀ n ∈ ns, Listable n) :
    ((build ns).nodes.filter (!·.value.isSome)).Nodup := by
  rw [List.Nodup, List.pairwise_filter]
  refine (tidy_build h).distinct_groups.imp ?_
  intro n k hne hn hk heq
  simp only [Bool.not_eq_true', Option.isSome_eq_false_iff, Option.isNone_iff_eq_none] at hn hk
  exact hne hn hk (congrArg Node.location heq)

lemma mem_groupsOf_perm (h : ns.Perm ns') {g : Location} : g ∈ groupsOf ns ↔ g ∈ groupsOf ns' := by
  simp only [mem_groupsOf_iff, h.mem_iff]

/-- **Listed nodes in another order** build the same nodes in another order. -/
lemma perm_build (hlistable : ∀ n ∈ ns, Listable n) (h : ns.Perm ns') :
    (build ns).nodes.Perm (build ns').nodes := by
  have hlistable' : ∀ n ∈ ns', Listable n := fun n hn => hlistable n (h.mem_iff.mpr hn)
  have hattributes : ((build ns).nodes.filter (·.value.isSome)).Perm
      ((build ns').nodes.filter (·.value.isSome)) := by
    rw [(tidy_build hlistable).attributes, (tidy_build hlistable').attributes]
    exact h.filter _
  have hgroups : ((build ns).nodes.filter (!·.value.isSome)).Perm
      ((build ns').nodes.filter (!·.value.isSome)) := by
    rw [List.perm_ext_iff_of_nodup (nodup_groups_build hlistable) (nodup_groups_build hlistable')]
    intro g
    simp only [List.mem_filter, Bool.not_eq_true', Option.isSome_eq_false_iff,
      Option.isNone_iff_eq_none]
    refine and_congr_left fun hvalue => ?_
    rw [mem_build_iff_of_group hlistable hvalue, mem_build_iff_of_group hlistable' hvalue,
      mem_groupsOf_perm h]
    simp only [h.mem_iff]
  calc (build ns).nodes
      ~ (build ns).nodes.filter (·.value.isSome) ++ (build ns).nodes.filter (!·.value.isSome) :=
        (List.filter_append_perm _ _).symm
    _ ~ (build ns').nodes.filter (·.value.isSome) ++ (build ns').nodes.filter (!·.value.isSome) :=
        hattributes.append hgroups
    _ ~ (build ns').nodes := List.filter_append_perm _ _

/-! ## Mappings -/

lemma ofDocument_record (path : String) (entries : List (String × Json)) :
    ofDocument path (.record entries) = (entries.mapM (listed path)).map build :=
  ofEntries_eq path entries .empty

variable {path : String}

lemma ofDocument_singleton_eq_error_iff {entry : String × Json} {e : LayoutError} :
    ofDocument path (.record [entry]) = .error e ↔ listed path entry = .error e := by
  simp only [ofDocument_record, List.mapM_cons, List.mapM_nil]
  cases listed path entry with
  | error e' => exact ⟨fun h => by cases h; rfl, fun h => by cases h; rfl⟩
  | ok n => exact ⟨nofun, nofun⟩

variable {entries entries' : List (String × Json)}

/-- A mapping is accepted when every entry is, which does not depend on their order. -/
lemma exists_ofDocument_iff :
    (∃ l, ofDocument path (.record entries) = .ok l) ↔
      ∀ entry ∈ entries, ∃ n, listed path entry = .ok n := by
  simp only [ofDocument_record, Except.map_eq_ok_iff]
  constructor
  · rintro ⟨_, ns, hns, -⟩ entry hentry
    exact Except.exists_of_mapM_eq_ok hns hentry
  · intro h
    obtain ⟨ns, hns⟩ := Except.exists_mapM_eq_ok h
    exact ⟨build ns, ns, hns, rfl⟩

/-- Layouts of the same entries in two orders hold the same nodes. -/
lemma perm_nodes_of_perm (h : entries.Perm entries') {l l' : Layout}
    (hl : ofDocument path (.record entries) = .ok l)
    (hl' : ofDocument path (.record entries') = .ok l') : l.nodes.Perm l'.nodes := by
  rw [ofDocument_record, Except.map_eq_ok_iff] at hl hl'
  obtain ⟨ns, hns, rfl⟩ := hl
  obtain ⟨ns', hns', rfl⟩ := hl'
  -- What the entries list in the other order is what they list here, in that order.
  obtain ⟨ms, hms, hperm⟩ := List.perm_comp_forall₂ h (Except.mapM_eq_ok_iff.mp hns')
  rw [Except.mapM_eq_ok_iff.mpr hms] at hns
  cases hns
  have hlistable : ∀ n ∈ ns, Listable n := by
    intro n hn
    obtain ⟨entry, -, hlisted⟩ := exists_of_forall₂ hms.flip hn
    exact (listed_eq_ok_iff.mp hlisted).listable
  exact perm_build hlistable hperm

/-- **The order of entries matters for the order of nodes only.**  A mapping is accepted with its
entries in one order exactly when it is with its entries in another, and the two layouts hold the
same nodes, as often, with the same values and marks.  It is accepted exactly when every entry is
accepted alone, and otherwise the error is the one that the first entry which is not accepted gives
alone.  Keys may even be repeated. -/
theorem ofDocument_perm (path : String) (entries : List (String × Json)) :
    (∀ entries', entries.Perm entries' →
      ((∃ l, ofDocument path (.record entries) = .ok l) ↔
        ∃ l, ofDocument path (.record entries') = .ok l) ∧
      ∀ l l', ofDocument path (.record entries) = .ok l →
        ofDocument path (.record entries') = .ok l' → l.nodes.Perm l'.nodes) ∧
    ((∃ l, ofDocument path (.record entries) = .ok l) ↔
      ∀ entry ∈ entries, ∃ l, ofDocument path (.record [entry]) = .ok l) ∧
    ∀ e, ofDocument path (.record entries) = .error e ↔
      ∃ before entry after, entries = before ++ entry :: after ∧
        (∀ b ∈ before, ∃ l, ofDocument path (.record [b]) = .ok l) ∧
        ofDocument path (.record [entry]) = .error e := by
  refine ⟨fun entries' h => ⟨?_, fun l l' hl hl' => perm_nodes_of_perm h hl hl'⟩, ?_, ?_⟩
  · simp only [exists_ofDocument_iff, h.mem_iff]
  · simp only [exists_ofDocument_iff, List.mem_singleton, forall_eq]
  · intro e
    simp only [exists_ofDocument_iff, List.mem_singleton, forall_eq,
      ofDocument_singleton_eq_error_iff]
    rw [ofDocument_record, Except.map_eq_error_iff, Except.mapM_eq_error_iff]

/-! ## A group that is listed late or early -/

/-- Two attributes and the group around one of them. -/
def lateGroupEntries : List (String × Json) :=
  [("/what#object", .text "SCAN"), ("/how/scan#task", .text "rain"), ("//how/ ", .null)]

/-- The group comes after another one if it is listed late, and first if it is listed early. -/
theorem ofDocument_perm_lateGroup :
    lateGroupEntries.Perm lateGroupEntries.reverse ∧
      ∃ l l', ofDocument "snap" (.record lateGroupEntries) = .ok l ∧
        ofDocument "snap" (.record lateGroupEntries.reverse) = .ok l' ∧
        l.locations.head? = some (.container ["what"]) ∧
        l'.locations.head? = some (.container ["how"]) ∧ l.nodes.Perm l'.nodes := by
  have hperm : lateGroupEntries.Perm lateGroupEntries.reverse := (List.reverse_perm _).symm
  have hlate : (ofDocument "snap" (.record lateGroupEntries)).toOption.map
      (·.locations.head?) = some (some (.container ["what"])) := by decide +kernel
  have hearly : (ofDocument "snap" (.record lateGroupEntries.reverse)).toOption.map
      (·.locations.head?) = some (some (.container ["how"])) := by decide +kernel
  obtain ⟨l, hl, hwhat⟩ := Option.map_eq_some_iff.mp hlate
  obtain ⟨l', hl', hhow⟩ := Option.map_eq_some_iff.mp hearly
  rw [Except.toOption_eq_some_iff] at hl hl'
  obtain ⟨-, hnodes⟩ := (ofDocument_perm "snap" lateGroupEntries).1 _ hperm
  exact ⟨hperm, l, l', hl, hl', hwhat, hhow, hnodes l l' hl hl'⟩

end Layout

end RadarConform
