import RadarConform.Proofs.Constraint.Chain
import RadarConform.Proofs.Number.Order

/-!
# Extreme elements

A constraint on the least or the greatest element of a sequence says something of all elements: that
all of them satisfy a comparison, or that some of them do.  So it does not matter in which order the
elements stand and how often each occurs.

* `Extreme` — the two ends of the order; `Extreme.rank` counts from an end.
* `Extreme.IsFirst` — an element before which none comes; the folds over a sequence find one
  (`Extreme.isFirst_foldl`).
* `Extreme.Says` — **what each clause says of the elements**.
* `Comparison.holds_of_zeros` — a comparison does not see the sign of zero.
* `evaluateText_extremes` — **constraints on extreme elements quantify over the elements**.

Of two zeros of different signs the fold keeps the earlier one.  No comparison tells them apart, but
an explanation shows the sign, so it is only the answer that never depends on the order.
-/

namespace RadarConform

open Text Grammar

/-- The ends of the order of numbers. -/
inductive Extreme where
  | least
  | greatest

namespace Extreme

/-- The aggregate that finds the element at an end. -/
def aggregate : Extreme → Aggregate
  | least => .min
  | greatest => .max

/-! ## Finding the first element -/

/-- The place of a number in the order, seen from an end. -/
def rank (extreme : Extreme) (x : Number) : Int :=
  match extreme with
  | least => x.key
  | greatest => -x.key

lemma rank_eq_iff (extreme : Extreme) {x y : Number} :
    extreme.rank x = extreme.rank y ↔ x.key = y.key := by
  cases extreme with
  | least => exact Iff.rfl
  | greatest => exact Int.neg_inj

/-- Of two numbers the one nearer to an end. -/
def pick (extreme : Extreme) (x y : Number) : Number :=
  match extreme with
  | least => x.min y
  | greatest => x.max y

/-- An element of a sequence before which none comes. -/
structure IsFirst (extreme : Extreme) (xs : List Number) (m : Number) : Prop where
  mem : m ∈ xs
  le : ∀ x ∈ xs, extreme.rank m ≤ extreme.rank x

lemma combine_aggregate (extreme : Extreme) (x : Number) (xs : List Number) :
    extreme.aggregate.combine x xs = xs.foldl extreme.pick x := by
  cases extreme with
  | least => rfl
  | greatest => rfl

lemma pick_eq (extreme : Extreme) {x y : Number} (hx : x ≠ .nan) (hy : y ≠ .nan) :
    extreme.pick x y = if extreme.rank y < extreme.rank x then y else x := by
  cases extreme with
  | least => exact if_congr (Number.lt_iff hy hx) rfl rfl
  | greatest => exact if_congr ((Number.lt_iff hx hy).trans Int.neg_lt_neg_iff.symm) rfl rfl

lemma isFirst_pick (extreme : Extreme) {x y : Number} (hx : x ≠ .nan) (hy : y ≠ .nan) :
    extreme.IsFirst [x, y] (extreme.pick x y) := by
  rw [pick_eq extreme hx hy]
  split
  · next hlt => exact ⟨by simp, by simpa using Int.le_of_lt hlt⟩
  · next hge => exact ⟨by simp, by simpa using hge⟩

/-- What comes first when a part of a sequence is replaced by its own first element comes first in
the whole sequence. -/
lemma IsFirst.append {extreme : Extreme} {part xs : List Number} {m m' : Number}
    (hpart : extreme.IsFirst part m) (h : extreme.IsFirst (m :: xs) m') :
    extreme.IsFirst (part ++ xs) m' := by
  refine ⟨?_, fun x hx => ?_⟩
  · rcases List.mem_cons.mp h.mem with rfl | hmem
    · exact List.mem_append_left xs hpart.mem
    · exact List.mem_append_right part hmem
  · rcases List.mem_append.mp hx with hx | hx
    · exact Int.le_trans (h.le m List.mem_cons_self) (hpart.le x hx)
    · exact h.le x (List.mem_cons_of_mem m hx)

/-- **The fold finds a first element.**  By induction on the sequence, of which the fold replaces the
first two elements by the one that it picks. -/
lemma isFirst_foldl (extreme : Extreme) {xs : List Number} {x : Number}
    (h : ∀ y ∈ x :: xs, y ≠ .nan) : extreme.IsFirst (x :: xs) (xs.foldl extreme.pick x) := by
  induction xs generalizing x with
  | nil => exact ⟨List.mem_singleton_self x, by simp⟩
  | cons y xs ih =>
      obtain ⟨hx, hy, hxs⟩ : x ≠ .nan ∧ y ≠ .nan ∧ ∀ z ∈ xs, z ≠ .nan := by simpa using h
      have hpick := isFirst_pick extreme hx hy
      have hpicked : extreme.pick x y ≠ .nan := by
        rcases List.mem_pair.mp hpick.mem with heq | heq
        · rwa [heq]
        · rwa [heq]
      exact hpick.append (ih (List.forall_mem_cons.mpr ⟨hpicked, hxs⟩))

/-- The aggregate of a sequence that has one. -/
lemma exists_apply (extreme : Extreme) {xs : List Number} (hne : xs ≠ [])
    (hfinite : ∀ x ∈ xs, x.isFinite = true) :
    ∃ m, extreme.IsFirst xs m ∧ extreme.aggregate.apply xs = .ok m := by
  obtain ⟨x, rest, rfl⟩ := List.exists_cons_of_ne_nil hne
  refine ⟨rest.foldl extreme.pick x,
    extreme.isFirst_foldl fun y hy => Number.ne_nan_of_isFinite (hfinite y hy), ?_⟩
  rw [Aggregate.apply, Aggregate.firstNotFinite_eq_none_iff.mpr hfinite]
  exact congrArg Except.ok (extreme.combine_aggregate x rest)

/-! ## What clauses say -/

/-- What a clause on an extreme element says of the elements of a sequence. -/
def Says (xs : List Number) (t : Number) : Extreme → Comparator → Prop
  | least, .atLeast => ∀ x ∈ xs, t.le x = true
  | least, .greater => ∀ x ∈ xs, t.lt x = true
  | least, .atMost => ∃ x ∈ xs, x.le t = true
  | least, .less => ∃ x ∈ xs, x.lt t = true
  | least, .equal => (∃ x ∈ xs, x.eq t = true) ∧ ∀ x ∈ xs, x.lt t = false
  | greatest, .atMost => ∀ x ∈ xs, x.le t = true
  | greatest, .less => ∀ x ∈ xs, x.lt t = true
  | greatest, .atLeast => ∃ x ∈ xs, t.le x = true
  | greatest, .greater => ∃ x ∈ xs, t.lt x = true
  | greatest, .equal => (∃ x ∈ xs, x.eq t = true) ∧ ∀ x ∈ xs, t.lt x = false

namespace IsFirst

variable {extreme : Extreme} {xs : List Number} {m : Number} {P : Number → Prop}

/-- A property that passes from the first element to every other one. -/
lemma forall_iff (h : extreme.IsFirst xs m) (hP : ∀ x ∈ xs, P m → P x) : P m ↔ ∀ x ∈ xs, P x :=
  ⟨fun hm x hx => hP x hx hm, fun hall => hall m h.mem⟩

/-- A property that passes from every element to the first one. -/
lemma exists_iff (h : extreme.IsFirst xs m) (hP : ∀ x ∈ xs, P x → P m) : P m ↔ ∃ x ∈ xs, P x :=
  ⟨fun hm => ⟨m, h.mem, hm⟩, fun hsome => by
    obtain ⟨x, hx, hx'⟩ := hsome
    exact hP x hx hx'⟩

variable (hnan : ∀ x ∈ xs, x ≠ .nan)
include hnan

lemma least_le (h : least.IsFirst xs m) : ∀ x ∈ xs, m.le x = true := fun x hx =>
  (Number.le_iff (hnan m h.mem) (hnan x hx)).mpr (h.le x hx)

lemma le_greatest (h : greatest.IsFirst xs m) : ∀ x ∈ xs, x.le m = true := fun x hx =>
  (Number.le_iff (hnan x hx) (hnan m h.mem)).mpr (Int.neg_le_neg_iff.mp (h.le x hx))

/-- The first element equals a number that some element equals and that no element comes before. -/
lemma eq_iff (h : extreme.IsFirst xs m) {t : Number} (ht : t ≠ .nan) :
    m.eq t = true ↔
      (∃ x ∈ xs, x.eq t = true) ∧ ∀ x ∈ xs, extreme.rank t ≤ extreme.rank x := by
  have hm := hnan m h.mem
  constructor
  · intro heq
    have hrank := extreme.rank_eq_iff.mpr ((Number.eq_iff hm ht).mp heq)
    exact ⟨⟨m, h.mem, heq⟩, fun x hx => hrank ▸ h.le x hx⟩
  · rintro ⟨⟨x, hx, heq⟩, hle⟩
    have hrank := extreme.rank_eq_iff.mpr ((Number.eq_iff (hnan x hx) ht).mp heq)
    have hfirst : extreme.rank m ≤ extreme.rank t := hrank ▸ h.le x hx
    exact (Number.eq_iff hm ht).mpr
      (extreme.rank_eq_iff.mp (Int.le_antisymm hfirst (hle m h.mem)))

/-- **A comparison of the first element** says of the elements what its clause says. -/
lemma holds_iff_says (h : extreme.IsFirst xs m) {t : Number} (ht : t ≠ .nan)
    (comparator : Comparator) :
    Comparison.holds ⟨comparator, t, none⟩ m = true ↔ extreme.Says xs t comparator := by
  cases extreme with
  | least =>
      have hle := h.least_le hnan
      cases comparator with
      | equal =>
          refine (h.eq_iff hnan ht).trans (and_congr_right' (forall₂_congr fun x hx => ?_))
          exact (Number.lt_eq_false_iff (hnan x hx) ht).symm
      | atLeast =>
          exact h.forall_iff (P := (t.le · = true)) fun x hx hm => Number.le_trans hm (hle x hx)
      | greater =>
          exact h.forall_iff (P := (t.lt · = true)) fun x hx hm =>
            Number.lt_of_lt_of_le hm (hle x hx)
      | atMost =>
          exact h.exists_iff (P := (·.le t = true)) fun x hx => Number.le_trans (hle x hx)
      | less =>
          exact h.exists_iff (P := (·.lt t = true)) fun x hx => Number.lt_of_le_of_lt (hle x hx)
  | greatest =>
      have hle := h.le_greatest hnan
      cases comparator with
      | equal =>
          refine (h.eq_iff hnan ht).trans (and_congr_right' (forall₂_congr fun x hx => ?_))
          exact Int.neg_le_neg_iff.trans (Number.lt_eq_false_iff ht (hnan x hx)).symm
      | atMost =>
          exact h.forall_iff (P := (·.le t = true)) fun x hx => Number.le_trans (hle x hx)
      | less =>
          exact h.forall_iff (P := (·.lt t = true)) fun x hx => Number.lt_of_le_of_lt (hle x hx)
      | atLeast =>
          exact h.exists_iff (P := (t.le · = true)) fun x hx hm => Number.le_trans hm (hle x hx)
      | greater =>
          exact h.exists_iff (P := (t.lt · = true)) fun x hx hm =>
            Number.lt_of_lt_of_le hm (hle x hx)

/-- Two first elements are the same, or zeros. -/
lemma eq_or_zeros (h : extreme.IsFirst xs m) {m' : Number} (h' : extreme.IsFirst xs m') :
    m = m' ∨ m.abs = .zero ∧ m'.abs = .zero := by
  have hrank := Int.le_antisymm (h.le m' h'.mem) (h'.le m h.mem)
  exact Number.eq_or_zeros_of_key_eq (hnan m h.mem) (hnan m' h'.mem)
    (extreme.rank_eq_iff.mp hrank)

/-- Without zeros of both signs there is one first element only. -/
lemma eq_of_zeros (h : extreme.IsFirst xs m) {m' : Number} (h' : extreme.IsFirst xs m')
    (hzeros : ¬ (Number.zero ∈ xs ∧ Number.zero.neg ∈ xs)) : m = m' := by
  rcases h.eq_or_zeros hnan h' with heq | ⟨hm, hm'⟩
  · exact heq
  · have hmem := h.mem
    have hmem' := h'.mem
    rcases Number.abs_eq_zero_iff.mp hm with rfl | rfl <;>
      rcases Number.abs_eq_zero_iff.mp hm' with rfl | rfl
    · rfl
    · exact absurd ⟨hmem, hmem'⟩ hzeros
    · exact absurd ⟨hmem', hmem⟩ hzeros
    · rfl

omit hnan in
/-- What comes first depends on which elements there are, not on their order or number. -/
lemma of_mem_iff (h : extreme.IsFirst xs m) {ys : List Number} (hys : ∀ z, z ∈ ys ↔ z ∈ xs) :
    extreme.IsFirst ys m :=
  ⟨(hys m).mpr h.mem, fun y hy => h.le y ((hys y).mp hy)⟩

end IsFirst

end Extreme

/-- **A comparison does not see the sign of zero**, with a tolerance neither. -/
lemma Comparison.holds_of_zeros (c : Comparison) {x y : Number} (hx : x.abs = .zero)
    (hy : y.abs = .zero) : c.holds x = c.holds y := by
  have hkey {z : Number} (hz : z.abs = .zero) : z.key? = some 0 := by
    rcases Number.abs_eq_zero_iff.mp hz with rfl | rfl <;> rfl
  obtain ⟨comparator, t, tolerance⟩ := c
  cases comparator with
  | equal =>
      cases tolerance with
      | none => simp only [holds, Number.eq, Number.compareKeys, hkey hx, hkey hy]
      | some d => simp only [holds, Number.abs_sub_of_zeros hx hy]
  | atLeast | atMost =>
      simp only [holds, Number.le, Number.compareKeys, hkey hx, hkey hy]
  | greater | less =>
      simp only [holds, Number.lt, Number.compareKeys, hkey hx, hkey hy]

/-! ## Constraints on extreme elements -/

/-- Expressions in which no aggregates but the least and the greatest element occur. -/
inductive Expression.OnExtremes : Expression → Prop
  | aggregate (extreme : Extreme) (c : Comparison) : OnExtremes (.aggregate extreme.aggregate c)
  | chain (k : Connective) {operands : List Expression} :
      (∀ e ∈ operands, OnExtremes e) → OnExtremes (.chain k operands)

/-- A sequence satisfies a constraint, which can be evaluated on it, exactly if `P`. -/
def Answers (info : Bool) (xs : List Number) (text : String) (P : Prop) : Prop :=
  ∃ o, (evaluateText info (.sequence xs) text).outcome = .ok o ∧ (o.matched = true ↔ P)

section

variable {xs : List Number} (hne : xs ≠ []) (hfinite : ∀ x ∈ xs, x.isFinite = true)
include hne hfinite

lemma Extreme.exists_evaluate (extreme : Extreme) (c : Comparison) :
    ∃ m, extreme.IsFirst xs m ∧
      Expression.evaluate (.aggregate extreme.aggregate c) (.sequence xs) =
        .ok (c.outcome extreme.aggregate.name m) := by
  obtain ⟨m, hm, happly⟩ := extreme.exists_apply hne hfinite
  exact ⟨m, hm, by rw [Expression.evaluate, happly]⟩

omit hne hfinite in
lemma Aggregate.spellsClause (aggregate : Aggregate) {mark limit : String} {comparator : Comparator}
    {t : Number} (hmark : Mark mark.toList comparator) (hlimit : Numeral limit.toList t) :
    SpellsClause .numberSequence (aggregate.name ++ mark ++ limit).toList
      (.aggregate aggregate ⟨comparator, t, none⟩) := by
  simpa using SpellsClause.aggregate (a := aggregate) blank_nil
    (.intro blank_nil hmark (.exact hlimit))

omit hne hfinite in
lemma Extreme.spellsClause (extreme : Extreme) {mark limit : String} {comparator : Comparator}
    {t : Number} (hmark : Mark mark.toList comparator) (hlimit : Numeral limit.toList t) :
    SpellsClause .numberSequence (extreme.aggregate.name ++ mark ++ limit).toList
      (.aggregate extreme.aggregate ⟨comparator, t, none⟩) :=
  extreme.aggregate.spellsClause hmark hlimit

/-- **Clauses**, with any spelling of the mark and the number. -/
lemma answers_clause (info : Bool) (extreme : Extreme) {mark limit : String}
    {comparator : Comparator} {t : Number} (hmark : Mark mark.toList comparator)
    (hlimit : Numeral limit.toList t) :
    Answers info xs (extreme.aggregate.name ++ mark ++ limit) (extreme.Says xs t comparator) := by
  have hparse := parse_eq_ok_iff.mpr (.clause (extreme.spellsClause hmark hlimit))
  obtain ⟨m, hm, heval⟩ := extreme.exists_evaluate hne hfinite ⟨comparator, t, none⟩
  refine ⟨_, (outcome_of_parse info (AttributeValue.kind_sequence_ne xs) hparse).trans heval, ?_⟩
  rw [Comparison.matched_outcome]
  exact hm.holds_iff_says (fun x hx => Number.ne_nan_of_isFinite (hfinite x hx))
    (Number.ne_nan_of_isFinite hlimit.isFinite) comparator

omit hne hfinite in
/-- Two clauses together. -/
lemma Answers.and {info : Bool} {text text' : String} {e e' : Expression} {P Q : Prop}
    (hspells : SpellsClause .numberSequence text.toList e)
    (hspells' : SpellsClause .numberSequence text'.toList e')
    (h : Answers info xs text P) (h' : Answers info xs text' Q) :
    Answers info xs (text ++ "&&" ++ text') (P ∧ Q) := by
  obtain ⟨o, ho, hP⟩ := h
  obtain ⟨o', ho', hQ⟩ := h'
  have hkind := AttributeValue.kind_sequence_ne xs
  rw [outcome_of_parse info hkind (parse_eq_ok_iff.mpr (.clause hspells))] at ho
  rw [outcome_of_parse info hkind (parse_eq_ok_iff.mpr (.clause hspells'))] at ho'
  have hchain : SpellsClauses .and .numberSequence (text ++ "&&" ++ text').toList [e, e'] := by
    simpa [Connective.mark] using SpellsClauses.more (k := .and) hspells (.one hspells')
  obtain ⟨p, hp, hmatched⟩ := exists_matched_of_spellsClauses hkind info hchain
    (.cons ho (.cons ho' .nil))
  refine ⟨p, hp, ?_⟩
  rw [hmatched, ← hP, ← hQ]
  simp [Connective.combine]

/-- **Ranges.**  Both ends of the range say that all elements are on the right side of them. -/
lemma answers_range (info : Bool) {lo hi : String} {a b : Number} (hlo : Numeral lo.toList a)
    (hhi : Numeral hi.toList b) :
    Answers info xs ("min>=" ++ lo ++ "&&max<=" ++ hi)
      (∀ x ∈ xs, a.le x = true ∧ x.le b = true) := by
  have htext : "min>=" ++ lo ++ "&&max<=" ++ hi =
      "min" ++ ">=" ++ lo ++ "&&" ++ ("max" ++ "<=" ++ hi) := by
    simp [← String.toList_inj]
  have hatLeast : Mark ">=".toList .atLeast := .atLeast
  have hatMost : Mark "<=".toList .atMost := .atMost
  obtain ⟨o, ho, hsays⟩ := Answers.and (Extreme.least.spellsClause hatLeast hlo)
    (Extreme.greatest.spellsClause hatMost hhi)
    (answers_clause hne hfinite info .least hatLeast hlo)
    (answers_clause hne hfinite info .greatest hatMost hhi)
  rw [htext]
  exact ⟨o, ho, hsays.trans forall₂_and.symm⟩

/-! ## Order and repetition -/

/-- What comes out for an expression on two sequences that have the same elements. -/
structure Alike (e : Expression) (xs ys : List Number) (o o' : Outcome) : Prop where
  left : e.evaluate (.sequence xs) = .ok o
  right : e.evaluate (.sequence ys) = .ok o'
  matched : o'.matched = o.matched
  eq : ¬ (Number.zero ∈ xs ∧ Number.zero.neg ∈ xs) → o' = o

/-- **Order and repetition do not matter.**  By induction on the expression, the operands of a chain
giving the same answers one by one. -/
lemma exists_alike {e : Expression} (he : e.OnExtremes) {ys : List Number}
    (hys : ∀ z, z ∈ ys ↔ z ∈ xs) : ∃ o o', Alike e xs ys o o' := by
  have hneYs : ys ≠ [] := by
    obtain ⟨x, hx⟩ := List.exists_mem_of_ne_nil xs hne
    exact List.ne_nil_of_mem ((hys x).mpr hx)
  have hfiniteYs : ∀ y ∈ ys, y.isFinite = true := fun y hy => hfinite y ((hys y).mp hy)
  have hnan : ∀ x ∈ xs, x ≠ .nan := fun x hx => Number.ne_nan_of_isFinite (hfinite x hx)
  induction he with
  | aggregate extreme c =>
      obtain ⟨m, hm, heval⟩ := extreme.exists_evaluate hne hfinite c
      obtain ⟨m', hm', heval'⟩ := extreme.exists_evaluate hneYs hfiniteYs c
      have hfirst := hm'.of_mem_iff fun z => (hys z).symm
      refine ⟨_, _, heval, heval', ?_, fun hzeros => ?_⟩
      · rw [Comparison.matched_outcome, Comparison.matched_outcome]
        rcases hm.eq_or_zeros hnan hfirst with rfl | ⟨hzero, hzero'⟩
        · rfl
        · exact c.holds_of_zeros hzero' hzero
      · rw [hm.eq_of_zeros hnan hfirst hzeros]
  | @chain k operands _ ih =>
      have : Nonempty Outcome := ⟨.pass⟩
      choose! f g hfg using ih
      refine ⟨k.outcome (Expression.chain k operands).text (operands.map f),
        k.outcome (Expression.chain k operands).text (operands.map g),
        Expression.evaluate_chain_eq_ok_iff.mpr ⟨_, ?_, rfl⟩,
        Expression.evaluate_chain_eq_ok_iff.mpr ⟨_, ?_, rfl⟩, ?_, fun hzeros => ?_⟩
      · rw [List.forall₂_map_right_iff, List.forall₂_same]
        exact fun e he => (hfg e he).left
      · rw [List.forall₂_map_right_iff, List.forall₂_same]
        exact fun e he => (hfg e he).right
      · rw [Connective.matched_outcome, Connective.matched_outcome, List.map_map, List.map_map]
        exact congrArg k.combine (List.map_congr_left fun e he => (hfg e he).matched)
      · rw [List.map_congr_left fun e he => (hfg e he).eq hzeros]

/-- **Constraints on the least and the greatest element quantify over the elements** of a sequence
that has elements, all of them finite.  A range is satisfied exactly if every element is in it, a
clause exactly if the elements are as it says.  What comes out for a constraint with no other
aggregates is the same for every sequence with these elements, in whatever order and however often
they occur in it; where both zeros are among them this is so of the answer, while the explanation
shows the sign of the one that comes first. -/
theorem evaluateText_extremes (info : Bool) :
    (∀ (lo hi : String) (a b : Number), Numeral lo.toList a → Numeral hi.toList b →
        Answers info xs ("min>=" ++ lo ++ "&&max<=" ++ hi)
          (∀ x ∈ xs, a.le x = true ∧ x.le b = true)) ∧
      (∀ (extreme : Extreme) (mark limit : String) (comparator : Comparator) (t : Number),
        Mark mark.toList comparator → Numeral limit.toList t →
        Answers info xs (extreme.aggregate.name ++ mark ++ limit)
          (extreme.Says xs t comparator)) ∧
      ∀ (text : String) (e : Expression), Expression.parse text .numberSequence = .ok e →
        e.OnExtremes → ∀ ys : List Number, (∀ z, z ∈ ys ↔ z ∈ xs) → ∃ o o',
          (evaluateText info (.sequence xs) text).outcome = .ok o ∧
          (evaluateText info (.sequence ys) text).outcome = .ok o' ∧
          o'.matched = o.matched ∧ (¬ (Number.zero ∈ xs ∧ Number.zero.neg ∈ xs) → o' = o) := by
  refine ⟨fun lo hi a b => answers_range hne hfinite info,
    fun extreme mark limit comparator t => answers_clause hne hfinite info extreme,
    fun text e hparse he ys hys => ?_⟩
  obtain ⟨o, o', h⟩ := exists_alike hne hfinite he hys
  exact ⟨o, o', (outcome_of_parse info (AttributeValue.kind_sequence_ne xs) hparse).trans h.left,
    (outcome_of_parse info (AttributeValue.kind_sequence_ne ys) hparse).trans h.right, h.matched, h.eq⟩

end

/-- Both zeros are in the range from zero to zero, the least of them equals zero, and the smallest
positive number is explained alike wherever it stands next to zeros. -/
theorem evaluateText_extremes_zeros :
    (∃ o, (evaluateText true (.sequence [.zero, Number.zero.neg]) "min>=0&&max<=0").outcome = .ok o ∧
        o.matched = true) ∧
      (∃ o, (evaluateText true (.sequence [.zero, Number.zero.neg]) "min=0").outcome = .ok o ∧
        o.matched = true) ∧
      ∃ o, (evaluateText true (.sequence [.zero, .ofRank false 1]) "max<0").outcome = .ok o ∧
        (evaluateText true (.sequence [.ofRank false 1, .zero, .zero]) "max<0").outcome = .ok o := by
  have hzero : Numeral "0".toList .zero := ⟨padded_self ['0'], by decide +kernel, by decide⟩
  have hless : Mark "<".toList .less := .less
  obtain ⟨hrange, hclause, -⟩ := evaluateText_extremes
    (List.cons_ne_nil Number.zero [Number.zero.neg]) (by decide) true
  obtain ⟨-, -, halike⟩ := evaluateText_extremes
    (List.cons_ne_nil Number.zero [.ofRank false 1]) (by decide) true
  refine ⟨?_, ?_, ?_⟩
  · obtain ⟨o, ho, hsays⟩ := hrange "0" "0" .zero .zero hzero hzero
    exact ⟨o, ho, hsays.mpr (by decide)⟩
  · obtain ⟨o, ho, hsays⟩ := hclause .least "=" "0" .equal .zero .equal hzero
    exact ⟨o, ho, hsays.mpr ⟨by decide, by decide⟩⟩
  · have hparse : Expression.parse "max<0" .numberSequence =
        .ok (.aggregate Extreme.greatest.aggregate ⟨.less, .zero, none⟩) :=
      parse_eq_ok_iff.mpr (.clause (Extreme.greatest.spellsClause hless hzero))
    obtain ⟨o, o', ho, ho', -, heq⟩ := halike _ _ hparse (.aggregate .greatest _)
      [.ofRank false 1, .zero, .zero] (by simp [or_comm])
    cases heq (by decide)
    exact ⟨o, ho, ho'⟩

end RadarConform
