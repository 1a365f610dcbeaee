import RadarConform.Proofs.Comparison.Matching
import RadarConform.Proofs.Comparison.Run
import RadarConform.Proofs.Snapshot.Document

/-!
# Rules for groups

A rule for a group is matched against the nodes of a layout, and a snapshot need not list the groups
it has.  Since every group that something lies in is in the layout, the rule sees the groups as they
are in the file.

* `Layout.LiesIn` — an entry in or at a group that the segments of a rule describe.
* `group_mem_iff` — the groups of a layout are the groups that entries lie in or list.
* `groupRule_hits_iff` — **a rule for a group hits a node exactly when an entry lies in such a
  group**, and a mandatory one is reported missing exactly when none does.

The number of segments decides how deep a group lies, for rule and node alike, so the groups that
count are the prefixes of that length.
-/

namespace RadarConform

namespace LocationMatcher

variable {l : Location} {m : LocationMatcher}

/-- The matcher of a group accepts groups with segments that it describes, and no attributes. -/
lemma accepts_iff_of_group (hm : compile l = .ok m) (hgroup : l.isAttribute = false)
    {k : Location} : m.accepts k = true ↔
      k.attributeName = none ∧ List.Forall₂ (fun p s => p.accepts s = true) m.segments k.segments := by
  obtain ⟨-, -, hname⟩ := compile_eq_ok_iff.mp hm
  rw [Location.isAttribute, Option.isSome_eq_false_iff, Option.isNone_iff_eq_none] at hgroup
  rw [hgroup] at hname
  generalize hnone : m.attributeName = name at hname
  cases hname
  rw [accepts, hnone, Bool.and_eq_true, acceptsAll_eq_true_iff]
  cases k.attributeName with
  | none => simp [acceptsName]
  | some name => simp [acceptsName]

/-- What the matcher of a group other than the root describes has segments. -/
lemma described_ne_nil (hm : compile l = .ok m) (hne : l.segments ≠ []) {ss : List String}
    (h : List.Forall₂ (fun p s => p.accepts s = true) m.segments ss) : ss ≠ [] := by
  obtain ⟨-, hsegments, -⟩ := compile_eq_ok_iff.mp hm
  rintro rfl
  rw [List.forall₂_nil_right_iff] at h
  rw [h, List.forall₂_nil_right_iff] at hsegments
  exact hne hsegments

end LocationMatcher

namespace Layout

/-- An entry in or at a group whose segments are accepted one by one. -/
def LiesIn (entry : String × Json) (segments : List SegmentMatcher) : Prop :=
  ∃ location, entryLocation entry = .ok location ∧
    ∃ group, group <+: location.segments ∧
      List.Forall₂ (fun p s => p.accepts s = true) segments group

/-! ## The groups of a layout -/

/-- **The groups that a snapshot has.**  A group is in the layout exactly when an entry lies in it or
lists it, at any depth. -/
lemma group_mem_iff {entries : List (String × Json)} {ns : List Node}
    (h : List.Forall₂ Lists entries ns) {g : Location} (hname : g.attributeName = none)
    (hne : g.segments ≠ []) : g ∈ (build ns).locations ↔
      ∃ entry ∈ entries, ∃ l, entryLocation entry = .ok l ∧ g.segments <+: l.segments := by
  rw [mem_locations_build_iff (listable_of_lists h)]
  constructor
  · rintro ⟨n, hn, hlocation⟩
    obtain ⟨entry, hentry, hlists⟩ := exists_of_forall₂ h.flip hn
    refine ⟨entry, hentry, _, hlists.entryLocation, ?_⟩
    rcases hlocation with rfl | ⟨-, -, hprefix, -⟩
    · exact List.prefix_rfl
    · exact hprefix
  · rintro ⟨entry, hentry, l, hl, hprefix⟩
    obtain ⟨n, hn, hlists⟩ := exists_of_forall₂ h hentry
    obtain rfl : n.location = l := by
      rw [hlists.entryLocation] at hl
      exact Except.ok.inj hl
    by_cases heq : n.location = g
    · exact ⟨n, hn, .inl heq⟩
    · exact ⟨n, hn, .inr ⟨hname, hne, hprefix, Ne.symm heq⟩⟩

/-- A matcher for groups accepts a node exactly when an entry lies in a group that it describes. -/
lemma exists_accepted_iff {entries : List (String × Json)} {ns : List Node}
    (h : List.Forall₂ Lists entries ns) {l : Location} {m : LocationMatcher}
    (hm : LocationMatcher.compile l = .ok m) (hgroup : l.isAttribute = false)
    (hne : l.segments ≠ []) : (∃ node ∈ (build ns).nodes, m.accepts node.location = true) ↔
      ∃ entry ∈ entries, LiesIn entry m.segments := by
  constructor
  · rintro ⟨node, hnode, haccepts⟩
    obtain ⟨hname, hsegments⟩ := (LocationMatcher.accepts_iff_of_group hm hgroup).mp haccepts
    have hnonempty := LocationMatcher.described_ne_nil hm hne hsegments
    obtain ⟨entry, hentry, k, hk, hprefix⟩ :=
      (group_mem_iff h hname hnonempty).mp (List.mem_map_of_mem hnode)
    exact ⟨entry, hentry, k, hk, _, hprefix, hsegments⟩
  · rintro ⟨entry, hentry, k, hk, group, hprefix, hsegments⟩
    have hnonempty := LocationMatcher.described_ne_nil hm hne hsegments
    -- Whether the entry is the group or lies deeper, the group is a node of its own.
    have hmem : { segments := group, attributeName := none } ∈ (build ns).locations :=
      (group_mem_iff h rfl hnonempty).mpr ⟨entry, hentry, k, hk, hprefix⟩
    obtain ⟨node, hnode, hlocation⟩ := List.mem_map.mp hmem
    refine ⟨node, hnode, (LocationMatcher.accepts_iff_of_group hm hgroup).mpr ?_⟩
    rw [hlocation]
    exact ⟨rfl, hsegments⟩

/-- **Rules for groups see the groups that exist.**  In the layout of any snapshot that is read, a
rule for a group hits a node exactly when an entry lies in or at a group that it describes; and any
report on the layout says that the group of a mandatory such rule is missing exactly when no entry
does. -/
theorem groupRule_hits_iff {text path : String} {format : SnapshotFormat} {layout : Layout}
    (h : Layout.parse text format path = .ok layout) {rule : Rule} {m : LocationMatcher}
    (hm : LocationMatcher.compile rule.location = .ok m)
    (hgroup : rule.location.isAttribute = false) (hne : rule.location.segments ≠ []) :
    ∃ entries, format.document text = .ok (.record entries) ∧
      ((∃ node ∈ layout.nodes, m.accepts node.location = true) ↔
        ∃ entry ∈ entries, LiesIn entry m.segments) ∧
      ∀ (table : RuleTable) (options : CompareOptions) (report : Report), rule ∈ table.rules →
        rule.mandatory = true → (compare layout table options).outcome = .ok report →
        ({ rule, finding := .missing } ∈ report.violations ↔
          ∀ entry ∈ entries, ¬ LiesIn entry m.segments) := by
  obtain ⟨entries, hdocument, ns, hlists, rfl⟩ := parse_eq_ok_iff.mp h
  have haccepted := exists_accepted_iff hlists hm hgroup hne
  refine ⟨entries, hdocument, haccepted, fun table options report hrule hmandatory hreport => ?_⟩
  rw [Comparison.missing_mem_iff hrule hmandatory hreport]
  simp only [Comparison.Naive.describes, hm]
  constructor
  · intro hnone entry hentry hlies
    obtain ⟨node, hnode, haccepts⟩ := haccepted.mpr ⟨entry, hentry, hlies⟩
    rw [hnone node hnode] at haccepts
    cases haccepts
  · intro hnone node hnode
    rw [← Bool.not_eq_true]
    intro haccepts
    obtain ⟨entry, hentry, hlies⟩ := haccepted.mp ⟨node, hnode, haccepts⟩
    exact hnone entry hentry hlies

/-! ## A group that is not listed -/

/-- A snapshot of which the only entry is an attribute three groups deep. -/
def deepGainText : String := "\x7b\"/dataset1/data1/what#gain\": \"auto\"\x7d"

/-- A group with the given segments, which something in it implies. -/
def impliedGroup (segments : List String) : Node :=
  { location := { segments, attributeName := none }, value := none, implied := true }

/-- Its layout: the groups around the attribute, and the attribute. -/
def deepGainLayout : Layout :=
  { nodes := [
      impliedGroup ["dataset1"],
      impliedGroup ["dataset1", "data1"],
      impliedGroup ["dataset1", "data1", "what"],
      { location := { segments := ["dataset1", "data1", "what"], attributeName := some "gain" }
        value := some (.text "auto"), implied := false }] }

/-- A mandatory rule for a group. -/
def groupRule (segments : List String) : Rule :=
  { location := { segments, attributeName := none }, mandatory := true, constraint := "",
    version := none, kind := none, description := "" }

/-- Its matcher, if the segments are literal. -/
def groupMatcher (segments : List String) : LocationMatcher :=
  { location := (groupRule segments).location, segments := segments.map .literal,
    attributeName := none }

/-- Rules for the group that the entry lies in and for one beside it. -/
def groupRulesTable : RuleTable :=
  { version := none, product := none
    rules := [groupRule ["dataset1", "data1"], groupRule ["dataset1", "data2"]] }

theorem groupRule_hits_deepGainText :
    Layout.parse deepGainText .json "snap" = .ok deepGainLayout ∧
      (∃ entries, SnapshotFormat.document .json deepGainText = .ok (.record entries) ∧
        ∃ entry ∈ entries, LiesIn entry [.literal "dataset1", .literal "data1"]) ∧
      ∃ report, (compare deepGainLayout groupRulesTable .standard).outcome = .ok report ∧
        { rule := groupRule ["dataset1", "data1"], finding := .missing } ∉ report.violations ∧
        { rule := groupRule ["dataset1", "data2"], finding := .missing } ∈ report.violations := by
  have h : Layout.parse deepGainText .json "snap" = .ok deepGainLayout :=
    Except.toOption_eq_some_iff.mp (by decide +kernel)
  have hreport : (compare deepGainLayout groupRulesTable .standard).outcome.toOption.isSome
      = true := by
    rw [Comparison.outcome_compare, Comparison.outcome_checkRules, Comparison.map_node_placedFrom]
    decide +kernel
  obtain ⟨report, hreport⟩ := Option.isSome_iff_exists.mp hreport
  rw [Except.toOption_eq_some_iff] at hreport
  have hm : LocationMatcher.compile (groupRule ["dataset1", "data1"]).location
      = .ok (groupMatcher ["dataset1", "data1"]) := rfl
  have hm' : LocationMatcher.compile (groupRule ["dataset1", "data2"]).location
      = .ok (groupMatcher ["dataset1", "data2"]) := rfl
  obtain ⟨entries, hdocument, hhits, hmissing⟩ :=
    groupRule_hits_iff h hm rfl (by simp [groupRule])
  obtain ⟨entries', -, hhits', hmissing'⟩ :=
    groupRule_hits_iff h hm' rfl (by simp [groupRule])
  obtain ⟨entry, hentry, hlies⟩ := hhits.mp (by decide +kernel)
  refine ⟨h, ⟨entries, hdocument, entry, hentry, hlies⟩, report, hreport, ?_, ?_⟩
  · rw [hmissing groupRulesTable .standard report (by simp [groupRulesTable]) rfl hreport]
    exact fun hnone => hnone entry hentry hlies
  · rw [hmissing' groupRulesTable .standard report (by simp [groupRulesTable]) rfl hreport]
    intro entry' hentry' hlies'
    exact absurd (hhits'.mpr ⟨entry', hentry', hlies'⟩) (by decide +kernel)

end Layout

end RadarConform
