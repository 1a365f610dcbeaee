import RadarConform.Proofs.Constraint.Extremes
import RadarConform.Proofs.Number.Mean

/-!
# The mean and the extreme elements

The exact mean of a sequence lies between its least and its greatest element.  The mean that is
computed need not: three times 0.1 over three is more than 0.1.  What it lies between are the means of
as many copies of the two elements, and these are off by the rounding of the sums and of the quotient.

* `MeanBounds` — what holds of a mean: its bounds, which copies reach, and how far these may be from
  the elements; `meanBounds_average`.
* `Satisfies`, `satisfies_mean_range_iff` — a range for the mean.
* `MeanFollows`, `meanFollows_iff` — whether a range for the elements is one for the mean depends on
  **the copies of its ends** alone.
* `mean_between_extremes` — **the mean and its bounds**, for sequences and for constraints on them.
* `not_mean_le_greatest`, `not_isFinite_mean_of_greatest` — a mean that is out of the range of its
  elements, and one that is not finite.
-/

namespace RadarConform

open Text Grammar
open Number (average drift HasMultiples)

/-! ## Bounds -/

/-- The bounds of the mean of some elements, of which the least and the greatest one are given. -/
structure MeanBounds (count : Nat) (least greatest m : Number) : Prop where
  /-- The bounds are the means of copies, so a sequence of copies reaches them. -/
  copies_le : (average (List.replicate count least)).le m = true
  le_copies : m.le (average (List.replicate count greatest)) = true
  /-- The mean overflows only if a mean of copies does. -/
  finite : (average (List.replicate count least)).isFinite = true →
    (average (List.replicate count greatest)).isFinite = true → m.isFinite = true
  /-- The bounds are near the elements. -/
  near_least : (average (List.replicate count least)).isFinite = true →
    least.value - drift count |least.value| ≤ m.value
  near_greatest : (average (List.replicate count greatest)).isFinite = true →
    m.value ≤ greatest.value + drift count |greatest.value|
  /-- They are the elements if the copies are summed without rounding. -/
  least_le : HasMultiples count least → least.le m = true
  le_greatest : HasMultiples count greatest → m.le greatest = true

section

variable {xs : List Number} (hne : xs ≠ []) (hfinite : ∀ x ∈ xs, x.isFinite = true)
include hne hfinite

lemma Aggregate.apply_mean : Aggregate.mean.apply xs = .ok (average xs) := by
  obtain ⟨x, rest, rfl⟩ := List.exists_cons_of_ne_nil hne
  rw [Aggregate.apply, Aggregate.firstNotFinite_eq_none_iff.mpr hfinite]
  rfl

lemma meanBounds_average {least greatest : Number} (hleast : Extreme.least.IsFirst xs least)
    (hgreatest : Extreme.greatest.IsFirst xs greatest) :
    MeanBounds xs.length least greatest (average xs) := by
  have hpos : 0 < xs.length := List.length_pos_iff.mpr hne
  have hfiniteLeast := hfinite least hleast.mem
  have hfiniteGreatest := hfinite greatest hgreatest.mem
  have hm := Number.average_ne_nan hfinite
  have hlow := Number.average_ne_nan (Number.isFinite_of_mem_replicate (n := xs.length) hfiniteLeast)
  have hhigh :=
    Number.average_ne_nan (Number.isFinite_of_mem_replicate (n := xs.length) hfiniteGreatest)
  obtain ⟨hcopies, hcopies'⟩ := Number.key_average_bounds hne hfinite hfiniteLeast hfiniteGreatest
    hleast.le fun x hx => Int.neg_le_neg_iff.mp (hgreatest.le x hx)
  refine ⟨(Number.le_iff hlow hm).mpr hcopies, (Number.le_iff hm hhigh).mpr hcopies',
    fun hlowFinite hhighFinite => ?_, fun hlowFinite => ?_, fun hhighFinite => ?_, fun h => ?_,
    fun h => ?_⟩
  · rw [Number.isFinite_iff hlow] at hlowFinite
    rw [Number.isFinite_iff hhigh] at hhighFinite
    exact (Number.isFinite_iff hm).mpr
      ⟨hlowFinite.1.trans_le hcopies, hcopies'.trans_lt hhighFinite.2⟩
  · have hnear := Number.abs_value_average_replicate_sub_le hpos hfiniteLeast hlowFinite
    have hmono := Number.value_mono hlow hm hcopies
    linarith [(abs_le.mp hnear).1]
  · have hnear := Number.abs_value_average_replicate_sub_le hpos hfiniteGreatest hhighFinite
    have hmono := Number.value_mono hm hhigh hcopies'
    linarith [(abs_le.mp hnear).2]
  · rw [Number.key_average_replicate hpos h hfiniteLeast] at hcopies
    exact (Number.le_iff (Number.ne_nan_of_isFinite hfiniteLeast) hm).mpr hcopies
  · rw [Number.key_average_replicate hpos h hfiniteGreatest] at hcopies'
    exact (Number.le_iff hm (Number.ne_nan_of_isFinite hfiniteGreatest)).mpr hcopies'

end

/-! ## Constraints -/

/-- A sequence satisfies a constraint, which can be evaluated on it. -/
def Satisfies (info : Bool) (xs : List Number) (text : String) : Prop :=
  ∃ o, (evaluateText info (.sequence xs) text).outcome = .ok o ∧ o.matched = true

lemma Answers.satisfies_iff {info : Bool} {xs : List Number} {text : String} {P : Prop}
    (h : Answers info xs text P) : Satisfies info xs text ↔ P := by
  obtain ⟨o, ho, hP⟩ := h
  constructor
  · rintro ⟨o', ho', hmatched⟩
    cases ho.symm.trans ho'
    exact hP.mp hmatched
  · exact fun h => ⟨o, ho, hP.mpr h⟩

variable {xs : List Number} {lo hi : String} {a b : Number}

lemma answers_mean (hne : xs ≠ []) (hfinite : ∀ x ∈ xs, x.isFinite = true) (info : Bool)
    {mark limit : String} {comparator : Comparator} {t : Number}
    (hmark : Mark mark.toList comparator) (hlimit : Numeral limit.toList t) :
    Answers info xs ("mean" ++ mark ++ limit)
      (Comparison.holds ⟨comparator, t, none⟩ (average xs) = true) := by
  have hparse := parse_eq_ok_iff.mpr (.clause (Aggregate.mean.spellsClause hmark hlimit))
  have heval : Expression.evaluate (.aggregate .mean ⟨comparator, t, none⟩) (.sequence xs)
      = .ok (Comparison.outcome ⟨comparator, t, none⟩ Aggregate.mean.name (average xs)) := by
    rw [Expression.evaluate, Aggregate.apply_mean hne hfinite]
  refine ⟨_, (outcome_of_parse info (AttributeValue.kind_sequence_ne xs) hparse).trans heval, ?_⟩
  rw [Comparison.matched_outcome]

/-- **A range for the extreme elements** is satisfied exactly if all elements are in it. -/
lemma satisfies_range_iff (hne : xs ≠ []) (hfinite : ∀ x ∈ xs, x.isFinite = true) (info : Bool)
    (hlo : Numeral lo.toList a) (hhi : Numeral hi.toList b) :
    Satisfies info xs ("min>=" ++ lo ++ "&&max<=" ++ hi) ↔
      ∀ x ∈ xs, a.le x = true ∧ x.le b = true :=
  (answers_range hne hfinite info hlo hhi).satisfies_iff

/-- **A range for the mean** is satisfied exactly if the mean is in it. -/
lemma satisfies_mean_range_iff (hne : xs ≠ []) (hfinite : ∀ x ∈ xs, x.isFinite = true) (info : Bool)
    (hlo : Numeral lo.toList a) (hhi : Numeral hi.toList b) :
    Satisfies info xs ("mean>=" ++ lo ++ "&&mean<=" ++ hi) ↔
      a.le (average xs) = true ∧ (average xs).le b = true := by
  have htext : "mean>=" ++ lo ++ "&&mean<=" ++ hi =
      "mean" ++ ">=" ++ lo ++ "&&" ++ ("mean" ++ "<=" ++ hi) := by
    simp [← String.toList_inj]
  have hatLeast : Mark ">=".toList .atLeast := .atLeast
  have hatMost : Mark "<=".toList .atMost := .atMost
  rw [htext]
  exact (Answers.and (Aggregate.mean.spellsClause hatLeast hlo) (Aggregate.mean.spellsClause hatMost hhi)
    (answers_mean hne hfinite info hatLeast hlo)
    (answers_mean hne hfinite info hatMost hhi)).satisfies_iff

/-- Every sequence of some length that satisfies a range for its elements satisfies it for its
mean, too. -/
def MeanFollows (info : Bool) (count : Nat) (lo hi : String) : Prop :=
  ∀ xs : List Number, xs.length = count → (∀ x ∈ xs, x.isFinite = true) →
    Satisfies info xs ("min>=" ++ lo ++ "&&max<=" ++ hi) →
      Satisfies info xs ("mean>=" ++ lo ++ "&&mean<=" ++ hi)

section

variable {count : Nat} (hcount : 0 < count) (info : Bool) (hlo : Numeral lo.toList a)
  (hhi : Numeral hi.toList b)
include hcount hlo hhi

/-- **The copies of the ends decide**: one sequence of copies of each end is enough to see whether a
range for the elements is one for the mean. -/
lemma meanFollows_iff : MeanFollows info count lo hi ↔
    (a.le b = true → a.le (average (List.replicate count a)) = true ∧
      (average (List.replicate count b)).le b = true) := by
  have ha := hlo.isFinite
  have hb := hhi.isFinite
  constructor
  · intro hfollows hab
    have hrange {x : Number} (hx : x.isFinite = true) (hax : a.le x = true) (hxb : x.le b = true) :
        a.le (average (List.replicate count x)) = true ∧
          (average (List.replicate count x)).le b = true := by
      have hne : List.replicate count x ≠ [] := by simpa using Nat.ne_of_gt hcount
      have hfinite := Number.isFinite_of_mem_replicate (n := count) hx
      refine (satisfies_mean_range_iff hne hfinite info hlo hhi).mp
        (hfollows _ List.length_replicate hfinite ?_)
      refine (satisfies_range_iff hne hfinite info hlo hhi).mpr fun y hy => ?_
      rw [List.eq_of_mem_replicate hy]
      exact ⟨hax, hxb⟩
    have hself {x : Number} (hx : x.isFinite = true) : x.le x = true :=
      (Number.le_iff (Number.ne_nan_of_isFinite hx) (Number.ne_nan_of_isFinite hx)).mpr
        (Int.le_refl _)
    exact ⟨(hrange ha (hself ha) hab).1, (hrange hb hab (hself hb)).2⟩
  · rintro hcopies xs rfl hfinite hrange
    have hne : xs ≠ [] := List.length_pos_iff.mp hcount
    have hbetween := (satisfies_range_iff hne hfinite info hlo hhi).mp hrange
    obtain ⟨x, hx⟩ := List.exists_mem_of_ne_nil xs hne
    obtain ⟨hlow, hhigh⟩ := hcopies (Number.le_trans (hbetween x hx).1 (hbetween x hx).2)
    obtain ⟨hle, hge⟩ := Number.le_average_bounds hne hfinite ha hb hbetween
    exact (satisfies_mean_range_iff hne hfinite info hlo hhi).mpr
      ⟨Number.le_trans hlow hle, Number.le_trans hge hhigh⟩

/-- Ends with multiples are the means of their copies. -/
lemma meanFollows_of_hasMultiples (hmultiplesLo : HasMultiples count a)
    (hmultiplesHi : HasMultiples count b) : MeanFollows info count lo hi := by
  refine (meanFollows_iff hcount info hlo hhi).mpr fun _ => ⟨?_, ?_⟩
  · have hcopies := Number.average_ne_nan (Number.isFinite_of_mem_replicate (n := count) hlo.isFinite)
    rw [Number.le_iff (Number.ne_nan_of_isFinite hlo.isFinite) hcopies,
      Number.key_average_replicate hcount hmultiplesLo hlo.isFinite]
  · have hcopies := Number.average_ne_nan (Number.isFinite_of_mem_replicate (n := count) hhi.isFinite)
    rw [Number.le_iff hcopies (Number.ne_nan_of_isFinite hhi.isFinite),
      Number.key_average_replicate hcount hmultiplesHi hhi.isFinite]

end

/-- **The mean lies between the extreme elements, up to rounding.**  A sequence of finite elements,
which is not empty, has a least and a greatest element and a mean.  The mean is a number that lies
between the means of as many copies of the two; it is finite if these are, and it is near the range of
the elements, or in it if the copies are summed without rounding.  A range for the elements of all
sequences of one length is a range for their means, too, exactly if it is one for the copies of its
ends, as it is when these have multiples. -/
theorem mean_between_extremes :
    (∀ xs : List Number, xs ≠ [] → (∀ x ∈ xs, x.isFinite = true) → ∃ least greatest m,
      Aggregate.min.apply xs = .ok least ∧ Aggregate.max.apply xs = .ok greatest ∧
      Aggregate.mean.apply xs = .ok m ∧ MeanBounds xs.length least greatest m) ∧
    ∀ (info : Bool) (lo hi : String) (a b : Number) (count : Nat), 0 < count →
      Numeral lo.toList a → Numeral hi.toList b →
      (MeanFollows info count lo hi ↔
        (a.le b = true → a.le (average (List.replicate count a)) = true ∧
          (average (List.replicate count b)).le b = true)) ∧
      (HasMultiples count a → HasMultiples count b → MeanFollows info count lo hi) := by
  refine ⟨fun xs hne hfinite => ?_, fun info lo hi a b count hcount hlo hhi =>
    ⟨meanFollows_iff hcount info hlo hhi, meanFollows_of_hasMultiples hcount info hlo hhi⟩⟩
  obtain ⟨least, hleast, hmin⟩ := Extreme.least.exists_apply hne hfinite
  obtain ⟨greatest, hgreatest, hmax⟩ := Extreme.greatest.exists_apply hne hfinite
  exact ⟨least, greatest, average xs, hmin, hmax, Aggregate.apply_mean hne hfinite,
    meanBounds_average hne hfinite hleast hgreatest⟩

/-- The number nearest to one tenth. -/
def tenth : Number := Decimal.toNumber false ⟨1, -1⟩

/-- **A mean above the greatest element.**  The sum of three tenths is rounded up, and the range that
the elements satisfy is not satisfied by their mean. -/
theorem not_mean_le_greatest :
    Aggregate.max.apply [tenth, tenth, tenth] = .ok tenth ∧
      (∃ m, Aggregate.mean.apply [tenth, tenth, tenth] = .ok m ∧ m.isFinite = true ∧
        m.le tenth = false) ∧
      Satisfies true [tenth, tenth, tenth] "min>=0.1&&max<=0.1" ∧
      ¬ Satisfies true [tenth, tenth, tenth] "mean>=0.1&&mean<=0.1" := by
  have hfinite : ∀ x ∈ [tenth, tenth, tenth], x.isFinite = true := by decide +kernel
  have hnumeral : Numeral "0.1".toList tenth :=
    ⟨padded_self ['0', '.', '1'], by decide +kernel, by decide +kernel⟩
  have habove : (average [tenth, tenth, tenth]).le tenth = false := by decide +kernel
  refine ⟨by decide +kernel, ⟨average [tenth, tenth, tenth], ?_, by decide +kernel, habove⟩, ?_, ?_⟩
  · exact Aggregate.apply_mean (List.cons_ne_nil _ _) hfinite
  · refine (satisfies_range_iff (List.cons_ne_nil _ _) hfinite true hnumeral hnumeral).mpr ?_
    decide +kernel
  · intro hrange
    have hle := ((satisfies_mean_range_iff (List.cons_ne_nil _ _) hfinite true hnumeral
      hnumeral).mp hrange).2
    rw [habove] at hle
    cases hle

/-- The greatest finite number. -/
def greatestFinite : Number := .ofRank false (Number.infinityRank - 1)

/-- **A mean that is not finite.**  Two numbers have a sum beyond the greatest finite one, although
their exact mean is one of them. -/
theorem not_isFinite_mean_of_greatest :
    greatestFinite.isFinite = true ∧
      Aggregate.mean.apply [greatestFinite, greatestFinite] = .ok (.infinity false) := by
  have hfinite : ∀ x ∈ [greatestFinite, greatestFinite], x.isFinite = true := by decide +kernel
  have hmean : average [greatestFinite, greatestFinite] = .infinity false := by decide +kernel
  rw [← hmean]
  exact ⟨by decide +kernel, Aggregate.apply_mean (List.cons_ne_nil _ _) hfinite⟩

/-- The mean of three tenths has its bounds, and angles between 0 and 360 degrees, up to ten million
million of them, have a mean between 0 and 360 degrees. -/
theorem mean_between_extremes_angles :
    (∃ least greatest m, Aggregate.min.apply [tenth, tenth, tenth] = .ok least ∧
      Aggregate.max.apply [tenth, tenth, tenth] = .ok greatest ∧
      Aggregate.mean.apply [tenth, tenth, tenth] = .ok m ∧ MeanBounds 3 least greatest m) ∧
    ∀ count, 0 < count → count ≤ 10 ^ 13 → MeanFollows true count "0" "360" := by
  obtain ⟨hbounds, hranges⟩ := mean_between_extremes
  refine ⟨hbounds _ (List.cons_ne_nil _ _) (by decide +kernel), fun count hcount hle => ?_⟩
  have hzero : Numeral "0".toList .zero := ⟨padded_self ['0'], by decide +kernel, by decide⟩
  have hturn : Numeral "360".toList (Decimal.toNumber false ⟨360, 0⟩) :=
    ⟨padded_self ['3', '6', '0'], by decide +kernel, by decide +kernel⟩
  refine (hranges true "0" "360" _ _ count hcount hzero hturn).2 ?_ ?_
  · have hunits : Number.zero.units = 0 := by decide
    refine Number.hasMultiples_of_units (c := 0) (e := 0) hunits (by omega) ?_
    rw [hunits, Nat.mul_zero]
    decide +kernel
  · have hunits : (Decimal.toNumber false ⟨360, 0⟩).units = 360 * 2 ^ 1074 := by decide +kernel
    refine Number.hasMultiples_of_units hunits (by omega) ?_
    calc count * (Decimal.toNumber false ⟨360, 0⟩).units
        ≤ 10 ^ 13 * (Decimal.toNumber false ⟨360, 0⟩).units := Nat.mul_le_mul_right _ hle
      _ < Number.unitsOfRank Number.infinityRank := by decide +kernel

end RadarConform
