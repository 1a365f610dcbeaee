import RadarConform.Pattern.Automaton
import RadarConform.Proofs.Pattern.Order

/-!
# Patterns between anchors

A text is put in a group between the anchors of a text before it is read.  Whether that gives the
pattern of the text depends on where the group ends.

* `item?` — what a text stands for when it is read alone, whatever its depth.
* `anchored_of_closed` — **the group ends with the text**: the pattern of the text stands between
  the anchors, two levels deeper.
* `anchored_of_swallowed` — a comment at the end of the text takes the end of the group in.
* `anchored_of_failed` — a text that cannot be read alone is read between the anchors exactly when
  it ends the group itself and opens another one that is ended for it (`Reenters`).
* `confined_iff` — `Confined` says of which texts between anchors a pattern is made exactly when
  the text alone is one.
* `found_between_iff` — between the anchors a pattern is found in the texts that it spans as a
  whole.
-/

namespace RadarConform.Pattern

open Reading

/-! ## A text alone -/

/-- What a text stands for, whatever its depth. -/
def item? (text : List Char) : Option Item :=
  (initial.run text).bind fun r => if r.groups.isEmpty then some r.content else none

lemma item?_eq_some_iff {text : List Char} {item : Item} :
    item? text = some item ↔ ∃ r, initial.run text = some r ∧ r.groups = [] ∧ r.content = item := by
  simp only [item?, Option.bind_eq_some_iff, Option.ite_none_right_eq_some, List.isEmpty_iff,
    Option.some.injEq]

lemma parse?_eq_some_iff {text : List Char} {p : Pattern} :
    parse? text = some p ↔
      ∃ item, item? text = some item ∧ item.depth ≤ maxDepth ∧ item.pattern = p := by
  simp only [item?_eq_some_iff, parse?]
  constructor
  · intro h
    obtain ⟨r, hrun, hr⟩ := Option.bind_eq_some_iff.mp h
    simp only [Bool.and_eq_true, List.isEmpty_iff, decide_eq_true_eq] at hr
    split at hr
    · next hend =>
        cases hr
        exact ⟨r.content, ⟨r, hrun, hend.1, rfl⟩, hend.2, rfl⟩
    · cases hr
  · rintro ⟨item, ⟨r, hrun, hgroups, rfl⟩, hdepth, rfl⟩
    simp [hrun, hgroups, hdepth]

/-- What is read has its repetitions in order. -/
lemma ordered_of_item? {text : List Char} {item : Item} (h : item? text = some item) :
    item.pattern.Ordered := by
  obtain ⟨r, hrun, -, rfl⟩ := item?_eq_some_iff.mp h
  exact (orderly_of_run orderly_initial hrun).content

/-! ## The group -/

/-- The anchor before the group. -/
def startItem : Item := { pattern := .look .textStart, depth := 0, repeatable := true }

/-- The group in which the text stands, while it is open. -/
def wholeGroup : Group :=
  { number := none, branches := [], items := [startItem], flags := .initial }

lemma run_anchored (text : List Char) :
    initial.run (anchored text) = (initial.inGroups [wholeGroup]).run (text ++ [')', '$']) := by
  have hstart : initial.run (anchored text) =
      (initial.add (.look .textStart) 0).run ('(' :: '?' :: ':' :: (text ++ [')', '$'])) := by
    show initial.run ('^' :: '(' :: '?' :: ':' :: (text ++ [')', '$'])) = _
    rw [run_cons (skipBlanks_of_not_blank (by decide) (by decide) _)]
    rfl
  rw [hstart, run_cons (skipBlanks_of_not_blank (by decide) (by decide) _)]
  rfl

/-- The reading after the end of the group, in which `r` was read. -/
def afterGroup (r : Reading) : Reading :=
  { r with
    groups := [], branches := [],
    items := [{ pattern := .group none r.content.pattern, depth := r.content.depth + 1,
                repeatable := true }, startItem],
    flags := .initial }

lemma run_close_nil {r : Reading} (h : r.groups = []) (k : List Char) :
    r.run (')' :: k) = none := by
  rw [run_cons (skipBlanks_close r.flags k)]
  simp [step, leave, h]

lemma run_close_whole {r : Reading} (h : r.groups = []) (k : List Char) :
    (r.inGroups [wholeGroup]).run (')' :: k) = (afterGroup r).run k := by
  rw [run_cons (skipBlanks_close _ k)]
  simp only [step, leave, inGroups_groups, h, List.nil_append, Option.map_some, Option.bind_some]
  rfl

lemma run_afterGroup_end (r : Reading) :
    (afterGroup r).run ['$'] = some ((afterGroup r).add (.look .textEnd) 0) := by
  rw [run_cons (skipBlanks_of_not_blank (by decide) (by decide) [])]
  exact run_nil (skipBlanks_nil _)

/-- **The end of the group.**  Where no group of the text is open, a parenthesis is one too many
for the text alone and ends the group between the anchors, or a comment takes it in. -/
lemma close_beyond {text : List Char} {r : Reading} (hrun : initial.run text = some r)
    (hgroups : r.groups = []) :
    (initial.run (text ++ [')']) = none ∧
      ∀ k, (initial.inGroups [wholeGroup]).run (text ++ ')' :: k) = (afterGroup r).run k) ∨
    (initial.run (text ++ [')']) = some r ∧
      (initial.inGroups [wholeGroup]).run (text ++ [')', '$']) =
        some (r.inGroups [wholeGroup])) := by
  rcases run_beyond hrun with hkept | hswallowed
  · refine .inl ⟨?_, fun k => ?_⟩
    · have := hkept [] []
      rwa [inGroups_nil, inGroups_nil, run_close_nil hgroups] at this
    · rw [hkept [wholeGroup] k, run_close_whole hgroups]
  · refine .inr ⟨?_, hswallowed [wholeGroup] ['$'] (by decide)⟩
    have := hswallowed [] [] (by simp)
    rwa [inGroups_nil, inGroups_nil] at this

/-! ## The three cases -/

/-- A pattern between the anchors of a text. -/
def between (p : Pattern) : Pattern :=
  .seq (.look .textStart) (.seq (.group none p) (.look .textEnd))

/-- **The group ends with the text.** -/
theorem anchored_of_closed {text : List Char} {item : Item} (h : item? text = some item)
    (hclose : item? (text ++ [')']) = none) :
    item? (anchored text) =
      some { pattern := between item.pattern, depth := item.depth + 2, repeatable := true } := by
  obtain ⟨r, hrun, hgroups, rfl⟩ := item?_eq_some_iff.mp h
  rcases close_beyond hrun hgroups with ⟨-, hclosed⟩ | ⟨hshort, -⟩
  · rw [item?_eq_some_iff]
    refine ⟨(afterGroup r).add (.look .textEnd) 0, ?_, rfl, ?_⟩
    · rw [run_anchored, hclosed ['$'], run_afterGroup_end]
    · show Reading.sequence [{ pattern := .look .textEnd, depth := 0, repeatable := true },
        { pattern := .group none r.content.pattern, depth := r.content.depth + 1,
          repeatable := true }, startItem] = _
      simp [Reading.sequence, greatestDepth, between, startItem]
  · rw [item?_eq_some_iff.mpr ⟨r, hshort, hgroups, rfl⟩] at hclose
    cases hclose

/-- A comment that takes in the end of the group leaves it open. -/
theorem anchored_of_swallowed {text : List Char} {item : Item} (h : item? text = some item)
    (hclose : item? (text ++ [')']) ≠ none) : item? (anchored text) = none := by
  obtain ⟨r, hrun, hgroups, rfl⟩ := item?_eq_some_iff.mp h
  rcases close_beyond hrun hgroups with ⟨hshort, -⟩ | ⟨-, hlong⟩
  · exact absurd (by simp [item?, hshort]) hclose
  · simp [item?, run_anchored, hlong]

/-- What stands between the anchors of a text that is a pattern alone, if anything does. -/
lemma anchored_eq_some_iff {text : List Char} {item whole : Item} (h : item? text = some item) :
    item? (anchored text) = some whole ↔ item? (text ++ [')']) = none ∧
      whole = { pattern := between item.pattern, depth := item.depth + 2, repeatable := true } := by
  by_cases hclose : item? (text ++ [')']) = none
  · rw [anchored_of_closed h hclose, Option.some.injEq, eq_comm, and_iff_right hclose]
  · rw [anchored_of_swallowed h hclose]
    constructor
    · intro hnone
      cases hnone
    · intro hboth
      exact absurd hboth.1 hclose

/-- A text ends its group and opens another one, which is ended for it: what stands before a
parenthesis can be read alone, the parenthesis is one too many, and what follows it can be read
after the group, up to the anchor at the end. -/
def Reenters (text : List Char) (item : Item) : Prop :=
  ∃ u v r r', text = u ++ ')' :: v ∧
    initial.run u = some r ∧ r.groups = [] ∧ initial.run (u ++ [')']) = none ∧
    (afterGroup r).run (v ++ [')', '$']) = some r' ∧ r'.groups = [] ∧ r'.content = item

/-- **A text that is no pattern alone** is one between the anchors when it reenters the group. -/
theorem anchored_of_failed {text : List Char} (h : item? text = none) {item : Item} :
    item? (anchored text) = some item ↔ Reenters text item := by
  constructor
  · intro hitem
    obtain ⟨r', hrun', hgroups', hcontent⟩ := item?_eq_some_iff.mp hitem
    rw [run_anchored] at hrun'
    cases hrun : initial.run text with
    | none =>
        rcases run_failed hrun hrun' with hopen | ⟨u, v, rfl, ⟨r, hu, hgroups⟩, hclose⟩
        · exact absurd hgroups' hopen
        rcases close_beyond hu hgroups with ⟨-, hclosed⟩ | ⟨hshort, -⟩
        · refine ⟨u, v, r, r', rfl, hu, hgroups, hclose, ?_, hgroups', hcontent⟩
          rw [← hclosed]
          simpa using hrun'
        · rw [hclose] at hshort
          cases hshort
    | some r =>
        -- the text leaves a group of its own open, so the parenthesis closes that one
        have hopen : r.groups ≠ [] := by
          intro hgroups
          rw [item?_eq_some_iff.mpr ⟨r, hrun, hgroups, rfl⟩] at h
          cases h
        rcases run_beyond hrun with hkept | hswallowed
        · rw [hkept, run_cons (skipBlanks_close _ _),
            r.step_inGroups [wholeGroup] (.inr hopen)] at hrun'
          obtain ⟨p, hp, hend⟩ := Option.bind_eq_some_iff.mp hrun'
          obtain ⟨⟨r₁, after⟩, hstep, rfl⟩ := Option.map_eq_some_iff.mp hp
          exact absurd hgroups' (groups_of_intrusion (step_suffix hstep) hend)
        · rw [hswallowed [wholeGroup] ['$'] (by decide), Option.some.injEq] at hrun'
          subst hrun'
          simp at hgroups'
  · rintro ⟨u, v, r, r', rfl, hu, hgroups, hclose, hv, hgroups', hcontent⟩
    rcases close_beyond hu hgroups with ⟨-, hclosed⟩ | ⟨hshort, -⟩
    · rw [item?_eq_some_iff]
      refine ⟨r', ?_, hgroups', hcontent⟩
      rw [run_anchored, List.append_assoc, List.cons_append, hclosed]
      exact hv
    · rw [hclose] at hshort
      cases hshort

/-! ## The condition -/

/-- The text stays in its group, and the anchors leave it small enough. -/
structure Confined (text : List Char) : Prop where
  /-- A text that is a pattern alone does not take in the end of the group and is not too large
  between the anchors. -/
  closed {item : Item} : item? text = some item → item.depth ≤ maxDepth →
    item? (text ++ [')']) = none ∧ item.depth + 2 ≤ maxDepth ∧ (between item.pattern).Compilable
  /-- A text that is no pattern alone does not reenter the group, unless it is too large then. -/
  failed {item : Item} : item? text = none → Reenters text item → item.depth ≤ maxDepth →
    ¬ item.pattern.Compilable

lemma compiled?_iff_whole? {text : String} {q : Pattern} :
    compiled? text = some q ↔ whole? text = some q ∧ q.Compilable := by
  rw [compiled?, Option.filter_eq_some_iff, decide_eq_true_eq]

lemma compiled?_eq_some_iff {text : String} {q : Pattern} :
    compiled? text = some q ↔ ∃ item, item? (anchored text.toList) = some item ∧
      item.depth ≤ maxDepth ∧ item.pattern = q ∧ q.Compilable := by
  rw [compiled?_iff_whole?, whole?, parse?_eq_some_iff]
  constructor
  · rintro ⟨⟨item, hitem, hdepth, hq⟩, hcompilable⟩
    exact ⟨item, hitem, hdepth, hq, hcompilable⟩
  · rintro ⟨item, hitem, hdepth, hq, hcompilable⟩
    exact ⟨⟨item, hitem, hdepth, hq⟩, hcompilable⟩

/-- Where a text is a pattern alone and between the anchors, the latter stands between anchors. -/
lemma compiled?_eq_between {text : String} {p q : Pattern} (hp : parse? text.toList = some p)
    (hq : compiled? text = some q) : q = between p := by
  obtain ⟨item, hitem, -, rfl⟩ := parse?_eq_some_iff.mp hp
  obtain ⟨whole, hwhole, -, rfl, -⟩ := compiled?_eq_some_iff.mp hq
  obtain ⟨-, rfl⟩ := (anchored_eq_some_iff hitem).mp hwhole
  rfl

/-- A text that is confined is a pattern alone if it is one between the anchors. -/
lemma Confined.exists_parse {text : String} (h : Confined text.toList) {q : Pattern}
    (hq : compiled? text = some q) : ∃ p, parse? text.toList = some p := by
  obtain ⟨whole, hwhole, hdepth, rfl, hcompilable⟩ := compiled?_eq_some_iff.mp hq
  cases hitem : item? text.toList with
  | none =>
      exact absurd hcompilable (h.failed hitem ((anchored_of_failed hitem).mp hwhole) hdepth)
  | some item =>
      obtain ⟨-, rfl⟩ := (anchored_eq_some_iff hitem).mp hwhole
      have hshallow : item.depth ≤ maxDepth := Nat.le_trans (Nat.le_add_right _ 2) hdepth
      exact ⟨item.pattern, parse?_eq_some_iff.mpr ⟨item, hitem, hshallow, rfl⟩⟩

/-- A text that is confined is a pattern between the anchors if it is one alone. -/
lemma Confined.exists_compiled {text : String} (h : Confined text.toList) {p : Pattern}
    (hp : parse? text.toList = some p) : ∃ q, compiled? text = some q := by
  obtain ⟨item, hitem, hdepth, rfl⟩ := parse?_eq_some_iff.mp hp
  obtain ⟨hclose, hdeeper, hcompilable⟩ := h.closed hitem hdepth
  exact ⟨_, compiled?_eq_some_iff.mpr
    ⟨_, anchored_of_closed hitem hclose, hdeeper, rfl, hcompilable⟩⟩

/-- **The exact condition** under which a text is accepted for what it is alone. -/
theorem confined_iff (text : String) : Confined text.toList ↔
    ((∃ q, compiled? text = some q) ↔ ∃ p, parse? text.toList = some p) := by
  constructor
  · intro h
    exact ⟨fun ⟨_, hq⟩ => h.exists_parse hq, fun ⟨_, hp⟩ => h.exists_compiled hp⟩
  · intro h
    constructor
    · intro item hitem hdepth
      obtain ⟨q, hq⟩ := h.mpr ⟨item.pattern, parse?_eq_some_iff.mpr ⟨item, hitem, hdepth, rfl⟩⟩
      obtain ⟨whole, hwhole, hdeeper, rfl, hcompilable⟩ := compiled?_eq_some_iff.mp hq
      obtain ⟨hclose, rfl⟩ := (anchored_eq_some_iff hitem).mp hwhole
      exact ⟨hclose, hdeeper, hcompilable⟩
    · intro item hnone hreenters hdepth hcompilable
      have hwhole := (anchored_of_failed hnone).mpr hreenters
      obtain ⟨p, hp⟩ := h.mp ⟨item.pattern,
        compiled?_eq_some_iff.mpr ⟨item, hwhole, hdepth, rfl, hcompilable⟩⟩
      obtain ⟨alone, halone, -⟩ := parse?_eq_some_iff.mp hp
      rw [hnone] at halone
      cases halone

/-! ## Whole texts -/

section Whole

variable {w : List Char}

lemma spans_textStart_iff {i j : Nat} : Spans w (.look .textStart) i j ↔ i = 0 ∧ j = 0 := by
  rw [spans_look_iff]
  constructor
  · rintro ⟨rfl, hi, hallows⟩
    simp only [Look.allows, beq_iff_eq, before] at hallows
    split at hallows
    · next hzero => exact ⟨hzero, hzero⟩
    · rw [List.getElem?_eq_none_iff] at hallows
      omega
  · rintro ⟨rfl, rfl⟩
    exact ⟨rfl, Nat.zero_le _, rfl⟩

lemma spans_textEnd_iff {i j : Nat} :
    Spans w (.look .textEnd) i j ↔ i = w.length ∧ j = w.length := by
  rw [spans_look_iff]
  constructor
  · rintro ⟨rfl, hi, hallows⟩
    simp only [Look.allows, beq_iff_eq, after, List.getElem?_eq_none_iff] at hallows
    omega
  · rintro ⟨rfl, rfl⟩
    exact ⟨rfl, Nat.le_refl _, by simp [Look.allows, after]⟩

/-- **Between the anchors** a pattern is found in the texts that it spans as a whole. -/
theorem found_between_iff {p : Pattern} (h : p.Ordered) :
    (between p).found w = true ↔ p.Fits w := by
  rw [found_iff (p := between p) ⟨trivial, h, trivial⟩]
  simp only [FoundIn, between, spans_seq_iff, spans_textStart_iff, spans_textEnd_iff,
    spans_group_iff, Fits]
  constructor
  · rintro ⟨i, j, k, ⟨-, rfl⟩, l, hspans, rfl, -⟩
    exact hspans
  · intro hspans
    exact ⟨0, w.length, 0, ⟨rfl, rfl⟩, w.length, hspans, rfl, rfl⟩

end Whole

end RadarConform.Pattern
