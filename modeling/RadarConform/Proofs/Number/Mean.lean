import Mathlib.Algebra.Order.BigOperators.Group.List
import RadarConform.Proofs.Number.Accuracy

/-!
# Means

The mean of a sequence is the rounded quotient of a sum that is rounded at every step.  It grows with
the elements, so it lies between the means of as many copies of the least and of the greatest of
them.  The mean of copies of a number need not be that number; how far it is off depends on how many
there are.

* `Number.average` — the mean; `Number.key_average_mono`: **it is monotone**.
* `Number.abs_value_average_sub_le` — **it is near the arithmetic mean**, unless the sum overflows.
* `Number.HasMultiples` — a number whose copies are summed without rounding; then **their mean is the
  number** (`Number.key_average_replicate`).
* `Number.hasMultiples_of_units` — numbers of few bits have multiples.
-/

namespace RadarConform.Number

/-- The sum of some numbers from left to right, which starts from minus zero. -/
def total (xs : List Number) : Number := xs.foldl add zero.neg

/-- The mean of some numbers, their sum over their count. -/
def average (xs : List Number) : Number := (total xs).divCount xs.length

variable {x y : Number} {xs ys : List Number}

lemma total_concat (xs : List Number) (x : Number) : total (xs ++ [x]) = (total xs).add x :=
  List.foldl_concat add zero.neg x xs

lemma total_ne_nan (hxs : ∀ x ∈ xs, x.isFinite = true) : total xs ≠ nan :=
  foldl_add_ne_nan hxs (by decide)

lemma average_ne_nan (hxs : ∀ x ∈ xs, x.isFinite = true) : average xs ≠ nan :=
  divCount_ne_nan (total_ne_nan hxs) xs.length

/-! ## Order -/

/-- **Means are monotone.** -/
lemma key_average_mono (h : List.Forall₂ (fun x y => x.key ≤ y.key) xs ys)
    (hxs : ∀ x ∈ xs, x.isFinite = true) (hys : ∀ y ∈ ys, y.isFinite = true) (hne : xs ≠ []) :
    (average xs).key ≤ (average ys).key := by
  have htotal : (total xs).key ≤ (total ys).key :=
    key_foldl_add_mono h hxs hys (by decide) (by decide) (Int.le_refl _)
  rw [average, average, ← h.length_eq]
  exact key_divCount_mono (total_ne_nan hxs) (total_ne_nan hys) (List.length_pos_iff.mpr hne) htotal

/-- As many copies of something that is related to all elements are related to them one by one. -/
lemma forall₂_replicate {R : Number → Number → Prop} {l : Number} (h : ∀ x ∈ xs, R l x) :
    List.Forall₂ R (List.replicate xs.length l) xs := by
  induction xs with
  | nil => exact .nil
  | cons x xs ih =>
      obtain ⟨hx, hxs⟩ := List.forall_mem_cons.mp h
      exact .cons hx (ih hxs)

lemma isFinite_of_mem_replicate {n : Nat} (h : x.isFinite = true) :
    ∀ y ∈ List.replicate n x, y.isFinite = true := by
  intro y hy
  rwa [List.eq_of_mem_replicate hy]

/-- **A mean lies between those of copies** of a number below all elements and of one above. -/
lemma key_average_bounds {l g : Number} (hne : xs ≠ []) (hxs : ∀ x ∈ xs, x.isFinite = true)
    (hl : l.isFinite = true) (hg : g.isFinite = true) (hle : ∀ x ∈ xs, l.key ≤ x.key)
    (hge : ∀ x ∈ xs, x.key ≤ g.key) :
    (average (List.replicate xs.length l)).key ≤ (average xs).key ∧
      (average xs).key ≤ (average (List.replicate xs.length g)).key := by
  have hcopies : List.replicate xs.length l ≠ [] := by simpa using hne
  exact ⟨key_average_mono (forall₂_replicate hle) (isFinite_of_mem_replicate hl) hxs hcopies,
    key_average_mono (forall₂_replicate hge).flip hxs (isFinite_of_mem_replicate hg) hne⟩

/-- The same for numbers in their order. -/
lemma le_average_bounds {a b : Number} (hne : xs ≠ []) (hxs : ∀ x ∈ xs, x.isFinite = true)
    (ha : a.isFinite = true) (hb : b.isFinite = true)
    (hbetween : ∀ x ∈ xs, a.le x = true ∧ x.le b = true) :
    (average (List.replicate xs.length a)).le (average xs) = true ∧
      (average xs).le (average (List.replicate xs.length b)) = true := by
  have hm := average_ne_nan hxs
  rw [le_iff (average_ne_nan (isFinite_of_mem_replicate ha)) hm,
    le_iff hm (average_ne_nan (isFinite_of_mem_replicate hb))]
  refine key_average_bounds hne hxs ha hb (fun x hx => ?_) fun x hx => ?_
  · exact (le_iff (ne_nan_of_isFinite ha) (ne_nan_of_isFinite (hxs x hx))).mp (hbetween x hx).1
  · exact (le_iff (ne_nan_of_isFinite (hxs x hx)) (ne_nan_of_isFinite hb)).mp (hbetween x hx).2

/-! ## Accuracy -/

lemma isFinite_infinity (s : Bool) : (infinity s).isFinite = false := by
  cases s with
  | true | false => decide

/-- A sum that stays in the finite range was in it before. -/
lemma isFinite_of_isFinite_add (hx : x ≠ nan) (hy : y.isFinite = true)
    (h : (x.add y).isFinite = true) : x.isFinite = true := by
  rcases isFinite_or_eq_infinity hx with hfinite | ⟨s, rfl⟩
  · exact hfinite
  · rw [infinity_add s hy, isFinite_infinity] at h
    cases h

lemma isFinite_of_isFinite_divCount (hx : x ≠ nan) {count : Nat}
    (h : (x.divCount count).isFinite = true) : x.isFinite = true := by
  rcases isFinite_or_eq_infinity hx with hfinite | ⟨s, rfl⟩
  · exact hfinite
  · have hstays : (infinity s).divCount count = infinity s := by simp [infinity, divCount]
    rw [hstays, isFinite_infinity] at h
    cases h

/-- How much a result may grow by one rounding. -/
def unitRoundoff : ℚ := 1 / 2 ^ 53

lemma unitRoundoff_nonneg : 0 ≤ unitRoundoff := by
  rw [unitRoundoff]
  positivity

lemma one_le_pow_roundoff (n : Nat) : 1 ≤ (1 + unitRoundoff) ^ n :=
  one_le_pow₀ (le_add_of_nonneg_right unitRoundoff_nonneg)

lemma abs_sum_value_le (xs : List Number) :
    |(xs.map value).sum| ≤ (xs.map fun x => |x.value|).sum := by
  induction xs with
  | nil => simp
  | cons x xs ih =>
      rw [List.map_cons, List.map_cons, List.sum_cons, List.sum_cons]
      exact (abs_add_le _ _).trans (add_le_add_right ih _)

section

variable {t t' v sum size growth : ℚ} (hsize : |sum| ≤ size)
  (hbefore : |t - sum| ≤ (growth - 1) * size)
include hsize hbefore

/-- What is near a sum is not much larger than the magnitudes that are summed. -/
lemma abs_le_growth_mul : |t| ≤ growth * size := by
  calc |t| = |(t - sum) + sum| := by ring_nf
    _ ≤ |t - sum| + |sum| := abs_add_le _ _
    _ ≤ growth * size := by linarith

/-- One more sum: the error so far is carried over, and one rounding is added. -/
lemma abs_sub_step (hgrowth : 1 ≤ growth) (hstep : |t' - (t + v)| ≤ |t + v| * unitRoundoff) :
    |t' - (sum + v)| ≤ (growth * (1 + unitRoundoff) - 1) * (size + |v|) := by
  have hv : |v| ≤ growth * |v| := le_mul_of_one_le_left (abs_nonneg v) hgrowth
  have hgrown : |t + v| ≤ growth * (size + |v|) := by
    calc |t + v| ≤ |t| + |v| := abs_add_le _ _
      _ ≤ growth * size + growth * |v| := add_le_add (abs_le_growth_mul hsize hbefore) hv
      _ = growth * (size + |v|) := (mul_add _ _ _).symm
  calc |t' - (sum + v)| = |(t' - (t + v)) + (t - sum)| := by ring_nf
    _ ≤ |t' - (t + v)| + |t - sum| := abs_add_le _ _
    _ ≤ growth * (size + |v|) * unitRoundoff + (growth - 1) * (size + |v|) := by
      have hcarried := mul_le_mul_of_nonneg_right hgrown unitRoundoff_nonneg
      linarith
    _ = (growth * (1 + unitRoundoff) - 1) * (size + |v|) := by ring

/-- The quotient: the error of the sum is divided, and one rounding is added. -/
lemma abs_sub_div_step {count rest : ℚ} (hcount : 0 < count)
    (hstep : |t' - t / count| ≤ |t| / count * unitRoundoff + rest) :
    |t' - sum / count| ≤ (growth * (1 + unitRoundoff) - 1) * (size / count) + rest := by
  have hgrown : |t| / count * unitRoundoff ≤ growth * size / count * unitRoundoff :=
    mul_le_mul_of_nonneg_right
      (div_le_div_of_nonneg_right (abs_le_growth_mul hsize hbefore) hcount.le) unitRoundoff_nonneg
  have hdivided : |t / count - sum / count| ≤ (growth - 1) * size / count := by
    rw [← sub_div, abs_div, abs_of_pos hcount]
    exact div_le_div_of_nonneg_right hbefore hcount.le
  calc |t' - sum / count| = |(t' - t / count) + (t / count - sum / count)| := by ring_nf
    _ ≤ |t' - t / count| + |t / count - sum / count| := abs_add_le _ _
    _ ≤ (growth * size / count * unitRoundoff + rest) + (growth - 1) * size / count := by linarith
    _ = (growth * (1 + unitRoundoff) - 1) * (size / count) + rest := by ring

end

lemma value_eq_of_key_eq (hx : x ≠ nan) (hy : y ≠ nan) (h : x.key = y.key) : x.value = y.value := by
  rw [value, value, signedUnits_eq_of_key_eq hx hy h]

lemma total_singleton (hx : x.isFinite = true) : (total [x]).key = x.key := by
  have hzero : zero.neg.signedUnits = 0 := by decide
  refine key_add_of_exact (by decide) hx (ne_nan_of_isFinite hx) ?_
  rw [hzero, Int.zero_add]

/-- **Sums of sequences.**  By induction on the sequence from its end; every sum but the first one, to
minus zero, is rounded once more. -/
lemma abs_value_total_sub_le (hxs : ∀ x ∈ xs, x.isFinite = true) (h : (total xs).isFinite = true) :
    |(total xs).value - (xs.map value).sum|
      ≤ ((1 + unitRoundoff) ^ (xs.length - 1) - 1) * (xs.map fun x => |x.value|).sum := by
  induction xs using List.reverseRecOn with
  | nil => decide +kernel
  | append_singleton xs x ih =>
      obtain ⟨hxs, hx⟩ := List.forall_mem_append.mp hxs
      rw [List.forall_mem_singleton] at hx
      by_cases hnil : xs = []
      · subst hnil
        have hvalue := value_eq_of_key_eq (total_ne_nan (List.forall_mem_singleton.mpr hx))
          (ne_nan_of_isFinite hx) (total_singleton hx)
        simp [hvalue]
      · have hpos : 0 < xs.length := List.length_pos_iff.mpr hnil
        have hlength : (xs ++ [x]).length - 1 = xs.length - 1 + 1 := by
          rw [List.length_append, List.length_singleton]
          omega
        rw [total_concat] at h ⊢
        have htotal := isFinite_of_isFinite_add (total_ne_nan hxs) hx h
        have hstep := abs_value_add_sub_le htotal hx h
        rw [div_eq_mul_one_div] at hstep
        rw [hlength, pow_succ, List.map_append, List.map_append, List.sum_append, List.sum_append,
          List.map_singleton, List.map_singleton, List.sum_singleton, List.sum_singleton]
        exact abs_sub_step (abs_sum_value_le xs) (ih hxs htotal) (one_le_pow_roundoff _) hstep

/-- How far the mean of some numbers may be from the arithmetic mean, where the mean of their
magnitudes is given. -/
def drift (count : Nat) (magnitude : ℚ) : ℚ :=
  ((1 + unitRoundoff) ^ count - 1) * magnitude + 1 / 2 / unitsOfOne

/-- **The mean is near the arithmetic mean**, unless the sum overflows. -/
lemma abs_value_average_sub_le (hne : xs ≠ []) (hxs : ∀ x ∈ xs, x.isFinite = true)
    (h : (average xs).isFinite = true) :
    |(average xs).value - (xs.map value).sum / xs.length|
      ≤ drift xs.length ((xs.map fun x => |x.value|).sum / xs.length) := by
  have hpos : 0 < xs.length := List.length_pos_iff.mpr hne
  have hcount : (0 : ℚ) < xs.length := by exact_mod_cast hpos
  have htotal := isFinite_of_isFinite_divCount (total_ne_nan hxs) h
  have hquotient := abs_value_divCount_sub_le htotal hpos
  rw [← average, div_eq_mul_one_div (_ / (xs.length : ℚ)) (2 ^ 53)] at hquotient
  have hpow : (1 + unitRoundoff) ^ xs.length
      = (1 + unitRoundoff) ^ (xs.length - 1) * (1 + unitRoundoff) := by
    rw [← pow_succ, Nat.sub_add_cancel hpos]
  rw [drift, hpow]
  exact abs_sub_div_step (abs_sum_value_le xs) (abs_value_total_sub_le hxs htotal) hcount hquotient

/-- **The mean of copies of a number is near the number.** -/
lemma abs_value_average_replicate_sub_le {n : Nat} (hn : 0 < n) (hx : x.isFinite = true)
    (h : (average (List.replicate n x)).isFinite = true) :
    |(average (List.replicate n x)).value - x.value| ≤ drift n |x.value| := by
  have hcount : (n : ℚ) ≠ 0 := by exact_mod_cast Nat.ne_of_gt hn
  have hne : List.replicate n x ≠ [] := by simpa using Nat.ne_of_gt hn
  have hnear := abs_value_average_sub_le hne (isFinite_of_mem_replicate hx) h
  rwa [List.map_replicate, List.map_replicate, List.sum_replicate, List.sum_replicate,
    List.length_replicate, nsmul_eq_mul, nsmul_eq_mul, mul_div_cancel_left₀ _ hcount,
    mul_div_cancel_left₀ _ hcount] at hnear

/-! ## Copies that are summed exactly -/

/-- Every multiple of a number up to a count is a finite number. -/
def HasMultiples (count : Nat) (x : Number) : Prop :=
  ∀ k ≤ count, ∃ y : Number, y.isFinite = true ∧ y.signedUnits = k * x.signedUnits

lemma isFinite_of_key_eq (hx : x ≠ nan) (hy : y.isFinite = true) (h : x.key = y.key) :
    x.isFinite = true := by
  rw [isFinite_iff hx, h, ← isFinite_iff (ne_nan_of_isFinite hy)]
  exact hy

/-- **Copies of a number with multiples are summed exactly.** -/
lemma signedUnits_total_replicate {n : Nat} (h : HasMultiples n x) (hx : x.isFinite = true) :
    (total (List.replicate n x)).isFinite = true ∧
      (total (List.replicate n x)).signedUnits = n * x.signedUnits := by
  induction n with
  | zero =>
      rw [Int.natCast_zero, Int.zero_mul]
      exact ⟨rfl, rfl⟩
  | succ n ih =>
      obtain ⟨hfinite, hunits⟩ := ih fun k hk => h k (Nat.le_succ_of_le hk)
      obtain ⟨y, hy, hmultiple⟩ := h (n + 1) (Nat.le_refl _)
      have hsum : (total (List.replicate n x)).signedUnits + x.signedUnits = y.signedUnits := by
        rw [hunits, hmultiple]
        push_cast
        ring
      have hkey := key_add_of_exact hfinite hx (ne_nan_of_isFinite hy) hsum
      have hne := add_ne_nan (ne_nan_of_isFinite hfinite) hx
      rw [List.replicate_succ', total_concat]
      exact ⟨isFinite_of_key_eq hne hy hkey,
        (signedUnits_eq_of_key_eq hne (ne_nan_of_isFinite hy) hkey).trans hmultiple⟩

/-- **The mean of copies of a number with multiples is the number.** -/
lemma key_average_replicate {n : Nat} (hn : 0 < n) (h : HasMultiples n x) (hx : x.isFinite = true) :
    (average (List.replicate n x)).key = x.key := by
  obtain ⟨hfinite, hunits⟩ := signedUnits_total_replicate h hx
  rw [average, List.length_replicate]
  exact key_divCount_of_exact hfinite hx hn hunits

/-- A magnitude of at most 53 bits, at any power of two, is that of its rank. -/
lemma unitsOfRank_of_bits {c e : Nat} (hc : c ≤ 2 ^ 53) :
    unitsOfRank (rankOfRatio (c * 2 ^ e) 1) = c * 2 ^ e := by
  have hdvd : 2 ^ excessBits (c * 2 ^ e) 1 ∣ c * 2 ^ e := by
    rcases Nat.lt_or_eq_of_le hc with hlt | rfl
    · have hexcess : excessBits (c * 2 ^ e) 1 ≤ e := by
        refine excessBits_le ?_
        rw [Nat.div_one, Nat.pow_add]
        exact Nat.mul_lt_mul_of_pos_right hlt (Nat.two_pow_pos e)
      exact Dvd.dvd.mul_left (Nat.pow_dvd_pow 2 hexcess) c
    · rw [← Nat.pow_add]
      have hexcess : excessBits (2 ^ (53 + e)) 1 ≤ e + 1 := by
        refine excessBits_le ?_
        rw [Nat.div_one]
        exact Nat.pow_lt_pow_right (by decide) (by omega)
      exact Nat.pow_dvd_pow 2 (by omega)
  obtain ⟨m, hm⟩ := hdvd
  rw [unitsOfRank_rankOfRatio _ Nat.one_pos]
  generalize excessBits (c * 2 ^ e) 1 = excess at hm ⊢
  rw [hm, Nat.one_mul, Nat.mul_comm (2 ^ excess) m, roundHalfEven_mul_self (Nat.two_pow_pos excess)]

/-- **Numbers of few bits have multiples**: whole numbers, or multiples of some power of two, as long
as the multiples have at most 53 bits and do not overflow. -/
lemma hasMultiples_of_units {n c e : Nat} (hx : x.units = c * 2 ^ e) (hbits : n * c ≤ 2 ^ 53)
    (hlt : n * x.units < unitsOfRank infinityRank) : HasMultiples n x := by
  intro k hk
  have hbits : k * c ≤ 2 ^ 53 := (Nat.mul_le_mul_right c hk).trans hbits
  have hunits := unitsOfRank_of_bits (e := e) hbits
  rw [Nat.mul_assoc, ← hx] at hunits
  have hrank : rankOfRatio (k * x.units) 1 < infinityRank := by
    by_contra hle
    have hmono := unitsOfRank_mono (Nat.le_of_not_lt hle)
    have hmul := Nat.mul_le_mul_right x.units hk
    omega
  refine ⟨ofRank x.isNegative (rankOfRatio (k * x.units) 1), isFinite_ofRank_iff.mpr hrank, ?_⟩
  have hsigned : x.signedUnits = withSign x.isNegative x.units := rfl
  rw [signedUnits_ofRank _ hrank, hunits, hsigned, mul_withSign]

end RadarConform.Number
