import Mathlib.Algebra.Order.AbsoluteValue.Basic
import Mathlib.Algebra.Order.Field.Rat
import Mathlib.Tactic.FieldSimp
import Mathlib.Tactic.Linarith
import Mathlib.Tactic.Positivity
import Mathlib.Tactic.Ring
import RadarConform.Proofs.Number.Monotone

/-!
# How far rounding is off

A result is rounded to 53 bits, so it is off by at most one part in 2^53, or by half of the smallest
number where numbers are spaced by that.  Sums of numbers are never off by the latter: they are whole
multiples of the smallest number themselves.

* `Number.value` — the exact value of a finite number.
* `Number.abs_value_add_sub_le`, `Number.abs_value_divCount_sub_le` — **one sum and one quotient**.
* `Number.key_add_of_exact`, `Number.key_divCount_of_exact` — a result that is a number is not rounded
  at all.
-/

namespace RadarConform.Number

/-! ## Rounding to whole numbers -/

/-- A ratio is rounded down if its rest is at most one half, and up if it is at least one half. -/
lemma roundHalfEven_cases (num den : Nat) :
    (roundHalfEven num den = num / den ∧ 2 * (num % den) ≤ den) ∨
      (roundHalfEven num den = num / den + 1 ∧ den ≤ 2 * (num % den)) := by
  simp only [roundHalfEven]
  split_ifs <;> omega

/-- A ratio is rounded to a whole number at most one half away. -/
lemma abs_roundHalfEven_sub_le (num : Nat) {den : Nat} (hden : 0 < den) :
    |(roundHalfEven num den : ℚ) - num / den| ≤ 1 / 2 := by
  have hpos : (0 : ℚ) < den := by exact_mod_cast hden
  have hlt : ((num % den : Nat) : ℚ) < den := by exact_mod_cast Nat.mod_lt num hden
  have hratio : (num : ℚ) / den = (num / den : Nat) + (num % den : Nat) / (den : ℚ) := by
    have hnum : (num : ℚ) = (num % den : Nat) + den * (num / den : Nat) := by
      exact_mod_cast (Nat.mod_add_div num den).symm
    rw [hnum]
    field_simp
    ring
  rcases roundHalfEven_cases num den with ⟨heq, hrest⟩ | ⟨heq, hrest⟩
  · have hhalf : ((num % den : Nat) : ℚ) / den ≤ 1 / 2 := by
      rw [div_le_div_iff₀ hpos two_pos]
      exact_mod_cast (by omega : num % den * 2 ≤ 1 * den)
    rw [hratio, heq, sub_add_cancel_left, abs_neg, abs_of_nonneg (by positivity)]
    exact hhalf
  · have hhalf : 1 / 2 ≤ ((num % den : Nat) : ℚ) / den := by
      rw [div_le_div_iff₀ two_pos hpos]
      exact_mod_cast (by omega : 1 * den ≤ num % den * 2)
    have hone : ((num % den : Nat) : ℚ) / den < 1 := (div_lt_one hpos).mpr hlt
    rw [hratio, heq, Nat.cast_add, Nat.cast_one, add_sub_add_left_eq_sub,
      abs_of_nonneg (by linarith)]
    linarith

/-! ## Rounding to numbers -/

/-- The magnitude of a rank that is put together from a power of two and a mantissa. -/
lemma unitsOfRank_mantissa {e m : Nat} (hlow : e = 0 ∨ binade ≤ m) (hhigh : m ≤ 2 * binade) :
    unitsOfRank (e * binade + m) = m * 2 ^ e := by
  have hbinade : 0 < binade := by decide
  rw [unitsOfRank, Nat.pow_eq]
  by_cases hsmall : m < binade
  · obtain rfl : e = 0 := hlow.resolve_right (Nat.not_le.mpr hsmall)
    rw [Nat.zero_mul, Nat.zero_add, if_pos hsmall, Nat.pow_zero, Nat.mul_one]
  · rw [if_neg fun hlt => hsmall (Nat.lt_of_le_of_lt (Nat.le_add_left m _) hlt)]
    rcases Nat.lt_or_eq_of_le hhigh with hlt | rfl
    · obtain ⟨d, rfl⟩ : ∃ d, m = binade + d := ⟨m - binade, by omega⟩
      have hd : d < binade := by omega
      have hrank : e * binade + (binade + d) = d + binade * (e + 1) := by ring
      rw [hrank, Nat.add_mul_mod_self_left, Nat.mod_eq_of_lt hd, Nat.add_mul_div_left _ _ hbinade,
        Nat.div_eq_of_lt hd, Nat.zero_add, Nat.add_sub_cancel]
    · -- The next power of two starts the next binade.
      have hrank : e * binade + 2 * binade = binade * (e + 2) := by ring
      rw [hrank, Nat.mul_mod_right, Nat.mul_div_cancel_left _ hbinade, Nat.add_zero]
      have hpow : e + 2 - 1 = e + 1 := by omega
      rw [hpow, Nat.pow_succ]
      ring

/-- The magnitude that a ratio is rounded to. -/
lemma unitsOfRank_rankOfRatio (num : Nat) {den : Nat} (hden : 0 < den) :
    unitsOfRank (rankOfRatio num den)
      = roundHalfEven num (den * 2 ^ excessBits num den) * 2 ^ excessBits num den := by
  refine unitsOfRank_mantissa ?_ (roundHalfEven_le_two_binade num hden)
  by_cases hexcess : excessBits num den = 0
  · exact .inl hexcess
  · have hdiv := (Nat.le_div_iff_mul_le hden).mpr (two_pow_le_of_excessBits hden hexcess)
    exact .inr (binade_le_roundHalfEven
      (Nat.le_trans (Nat.pow_le_pow_right (by decide) (Nat.le_add_right 52 _)) hdiv))

/-- A ratio is off by half of the power of two that its mantissa counts. -/
lemma abs_unitsOfRank_sub_le_half (num : Nat) {den : Nat} (hden : 0 < den) :
    |(unitsOfRank (rankOfRatio num den) : ℚ) - num / den| ≤ 2 ^ excessBits num den / 2 := by
  have hpow : (0 : ℚ) < 2 ^ excessBits num den := by positivity
  have hround := abs_roundHalfEven_sub_le num (Nat.mul_pos hden (Nat.two_pow_pos (excessBits num den)))
  rw [Nat.cast_mul, Nat.cast_pow, Nat.cast_ofNat, ← div_div] at hround
  have hscaled : (roundHalfEven num (den * 2 ^ excessBits num den) * 2 ^ excessBits num den : ℚ)
      - num / den = (roundHalfEven num (den * 2 ^ excessBits num den)
        - num / den / 2 ^ excessBits num den) * 2 ^ excessBits num den := by
    rw [sub_mul, div_mul_cancel₀ _ (ne_of_gt hpow)]
  rw [unitsOfRank_rankOfRatio num hden, Nat.cast_mul, Nat.cast_pow, Nat.cast_ofNat, hscaled, abs_mul,
    abs_of_pos hpow]
  calc |(roundHalfEven num (den * 2 ^ excessBits num den) : ℚ) - num / den / 2 ^ excessBits num den|
        * 2 ^ excessBits num den ≤ 1 / 2 * 2 ^ excessBits num den :=
      mul_le_mul_of_nonneg_right hround hpow.le
    _ = 2 ^ excessBits num den / 2 := by ring

lemma two_pow_excessBits_le {num den : Nat} (hden : 0 < den) (h : excessBits num den ≠ 0) :
    (2 : ℚ) ^ excessBits num den / 2 ≤ num / den / 2 ^ 53 := by
  have hpos : (0 : ℚ) < den := by exact_mod_cast hden
  have hnum : (2 : ℚ) ^ (52 + excessBits num den) * den ≤ num := by
    exact_mod_cast two_pow_le_of_excessBits hden h
  rw [div_div, div_le_div_iff₀ two_pos (by positivity)]
  rw [pow_add] at hnum
  linarith

/-- **A whole multiple of the smallest number is off by one part in 2^53.** -/
lemma abs_unitsOfRank_sub_le (n : Nat) :
    |(unitsOfRank (rankOfRatio n 1) : ℚ) - n| ≤ n / 2 ^ 53 := by
  by_cases hexcess : excessBits n 1 = 0
  · -- Below the binades that are spaced wider than by one, nothing is rounded.
    have hexact := roundHalfEven_mul_self Nat.one_pos n
    rw [Nat.mul_one] at hexact
    rw [unitsOfRank_rankOfRatio n Nat.one_pos, hexcess, Nat.pow_zero, Nat.mul_one, Nat.mul_one, hexact,
      sub_self, abs_zero]
    positivity
  · have herror := abs_unitsOfRank_sub_le_half n Nat.one_pos
    have hsmall := two_pow_excessBits_le Nat.one_pos hexcess
    rw [Nat.cast_one, div_one] at herror hsmall
    exact herror.trans hsmall

/-- **A ratio is off by one part in 2^53 and half of the smallest number.** -/
lemma abs_unitsOfRank_sub_ratio_le (num : Nat) {den : Nat} (hden : 0 < den) :
    |(unitsOfRank (rankOfRatio num den) : ℚ) - num / den| ≤ num / den / 2 ^ 53 + 1 / 2 := by
  have herror := abs_unitsOfRank_sub_le_half num hden
  have hratio : (0 : ℚ) ≤ num / den / 2 ^ 53 := by positivity
  by_cases hexcess : excessBits num den = 0
  · rw [hexcess, pow_zero] at herror
    linarith
  · have hsmall := two_pow_excessBits_le hden hexcess
    linarith

/-! ## Values -/

/-- The exact value of a finite number. -/
def value (x : Number) : ℚ := x.signedUnits / unitsOfOne

variable {x y z : Number}

lemma unitsOfOne_cast_pos : (0 : ℚ) < unitsOfOne := by exact_mod_cast unitsOfOne_pos

lemma value_mono (hx : x ≠ nan) (hy : y ≠ nan) (h : x.key ≤ y.key) : x.value ≤ y.value := by
  have hunits : (x.signedUnits : ℚ) ≤ y.signedUnits := by exact_mod_cast signedUnits_mono hx hy h
  exact div_le_div_of_nonneg_right hunits unitsOfOne_cast_pos.le

lemma signedUnits_eq_of_key_eq (hx : x ≠ nan) (hy : y ≠ nan) (h : x.key = y.key) :
    x.signedUnits = y.signedUnits :=
  Int.le_antisymm (signedUnits_mono hx hy (Int.le_of_eq h))
    (signedUnits_mono hy hx (Int.le_of_eq h.symm))

/-- A number is finite exactly if it is strictly between the infinities. -/
lemma isFinite_iff (hx : x ≠ nan) : x.isFinite = true ↔
    (infinity true).key < x.key ∧ x.key < (infinity false).key := by
  constructor
  · intro hfinite
    have hbounds := key_bounds x
    have hlow := key_ne_key_infinity hfinite true
    have hhigh := key_ne_key_infinity hfinite false
    omega
  · rintro ⟨hlow, hhigh⟩
    rcases isFinite_or_eq_infinity hx with hfinite | ⟨s, rfl⟩
    · exact hfinite
    · cases s with
      | true => exact absurd hlow (Int.lt_irrefl _)
      | false => exact absurd hhigh (Int.lt_irrefl _)

lemma isFinite_ofRank_iff {s : Bool} {rank : Nat} :
    (ofRank s rank).isFinite = true ↔ rank < infinityRank := by
  rw [ofRank, isFinite, decide_eq_true_iff]
  omega

lemma signedUnits_ofRank (s : Bool) {rank : Nat} (h : rank < infinityRank) :
    (ofRank s rank).signedUnits = withSign s (unitsOfRank rank) := by
  have hmin : Nat.min rank infinityRank = rank := Nat.min_eq_left (Nat.le_of_lt h)
  exact congrArg (fun r => withSign s (unitsOfRank r)) hmin

lemma natAbs_withSign (s : Bool) (n : Nat) : (withSign s n).natAbs = n := by
  cases s with
  | true | false => simp [withSign]

lemma mul_withSign (c : Nat) (s : Bool) (n : Nat) : (c : Int) * withSign s n = withSign s (c * n) := by
  cases s with
  | true | false => simp [withSign]

/-- Two magnitudes with one sign are as far apart as without it. -/
lemma abs_withSign_sub (s : Bool) (m n : Nat) (c : ℚ) :
    |((withSign s m : Int) : ℚ) - (withSign s n : Int) / c| = |(m : ℚ) - n / c| := by
  cases s with
  | false => rfl
  | true =>
      have hneg : ((withSign true m : Int) : ℚ) - (withSign true n : Int) / c = -(m - n / c) := by
        simp only [withSign, if_true, Int.cast_neg, Int.cast_natCast]
        ring
      rw [hneg, abs_neg]

/-! ## One sum -/

lemma abs_signedUnits_ofSignedUnits_sub_le {n : Int} (h : (ofSignedUnits n).isFinite = true) :
    |((ofSignedUnits n).signedUnits : ℚ) - n| ≤ |(n : ℚ)| / 2 ^ 53 := by
  have hrank := isFinite_ofRank_iff.mp h
  have hsign : (n : ℚ) = (withSign (n < 0) n.natAbs : Int) / (1 : ℚ) := by
    rw [withSign_natAbs, div_one]
  have hunits : (ofSignedUnits n).signedUnits
      = withSign (n < 0) (unitsOfRank (rankOfRatio n.natAbs 1)) := signedUnits_ofRank _ hrank
  calc |((ofSignedUnits n).signedUnits : ℚ) - n|
      = |(unitsOfRank (rankOfRatio n.natAbs 1) : ℚ) - n.natAbs / 1| := by
        rw [← abs_withSign_sub (n < 0), ← hsign, hunits]
    _ ≤ n.natAbs / 2 ^ 53 := by
        rw [div_one]
        exact abs_unitsOfRank_sub_le n.natAbs
    _ = |(n : ℚ)| / 2 ^ 53 := by rw [Nat.cast_natAbs, Int.cast_abs]

/-- **One sum** is off by one part in 2^53. -/
lemma abs_value_add_sub_le (hx : x.isFinite = true) (hy : y.isFinite = true)
    (h : (x.add y).isFinite = true) :
    |(x.add y).value - (x.value + y.value)| ≤ |x.value + y.value| / 2 ^ 53 := by
  have hkey := key_add hx hy
  have hne : ofSignedUnits (x.signedUnits + y.signedUnits) ≠ nan := nofun
  have hfinite : (ofSignedUnits (x.signedUnits + y.signedUnits)).isFinite = true := by
    rw [isFinite_iff hne, ← hkey, ← isFinite_iff (ne_nan_of_isFinite h)]
    exact h
  have hunits := signedUnits_eq_of_key_eq (ne_nan_of_isFinite h) hne hkey
  have herror := abs_signedUnits_ofSignedUnits_sub_le hfinite
  rw [← hunits, Int.cast_add] at herror
  have hpos := unitsOfOne_cast_pos
  have hsum : x.value + y.value = ((x.signedUnits : ℚ) + y.signedUnits) / unitsOfOne :=
    (add_div _ _ _).symm
  rw [hsum, value, ← sub_div, abs_div, abs_div, abs_of_pos hpos, div_right_comm]
  exact div_le_div_of_nonneg_right herror hpos.le

/-! ## One quotient -/

/-- A quotient by a count is not above what is divided. -/
lemma rankOfRatio_unitsOfRank_le {count : Nat} (hcount : 0 < count) (rank : Nat) :
    rankOfRatio (unitsOfRank rank) count ≤ rank := by
  have hscale := rankOfRatio_scale hcount (unitsOfRank rank) 1
  rw [Nat.mul_one, rankOfRatio_unitsOfRank] at hscale
  calc rankOfRatio (unitsOfRank rank) count
      ≤ rankOfRatio (count * unitsOfRank rank) count :=
        rankOfRatio_mono hcount (Nat.le_mul_of_pos_left _ hcount)
    _ = rank := hscale

/-- The quotient of a finite number. -/
lemma divCount_signed (s : Bool) {rank : Nat} (h : rank ≤ infinityRank) (hrank : rank < infinityRank)
    (count : Nat) :
    (signed s rank h).divCount count = ofRank s (rankOfRatio (unitsOfRank rank) count) := by
  rw [divCount, if_neg (Nat.ne_of_lt hrank)]
  rfl

lemma isFinite_divCount (hx : x.isFinite = true) {count : Nat} (hcount : 0 < count) :
    (x.divCount count).isFinite = true := by
  cases x with
  | nan => cases hx
  | signed s r hr =>
      have hrank : r < infinityRank := of_decide_eq_true hx
      rw [divCount_signed s hr hrank, isFinite_ofRank_iff]
      exact Nat.lt_of_le_of_lt (rankOfRatio_unitsOfRank_le hcount r) hrank

/-- **One quotient** is off by one part in 2^53 and half of the smallest number. -/
lemma abs_value_divCount_sub_le (hx : x.isFinite = true) {count : Nat} (hcount : 0 < count) :
    |(x.divCount count).value - x.value / count|
      ≤ |x.value| / count / 2 ^ 53 + 1 / 2 / unitsOfOne := by
  cases x with
  | nan => cases hx
  | signed s r hr =>
      have hrank : r < infinityRank := of_decide_eq_true hx
      have hpos := unitsOfOne_cast_pos
      have hfinite := isFinite_divCount hx hcount
      rw [divCount_signed s hr hrank] at hfinite ⊢
      have herror := abs_unitsOfRank_sub_ratio_le (unitsOfRank r) hcount
      rw [← abs_withSign_sub s] at herror
      have habs : |((withSign s (unitsOfRank r) : Int) : ℚ)| = unitsOfRank r := by
        rw [← Int.cast_abs, Int.abs_eq_natAbs, natAbs_withSign]
        rfl
      rw [value, value, signedUnits_ofRank s (isFinite_ofRank_iff.mp hfinite), signedUnits_signed,
        div_right_comm _ (unitsOfOne : ℚ), ← sub_div, abs_div, abs_div, abs_of_pos hpos, habs,
        div_right_comm _ (unitsOfOne : ℚ), div_right_comm _ (unitsOfOne : ℚ), ← add_div]
      exact div_le_div_of_nonneg_right herror hpos.le

/-! ## Results that are numbers -/

lemma eq_zero_of_unitsOfRank {rank : Nat} (h : unitsOfRank rank = 0) : rank = 0 := by
  rw [← rankOfRatio_unitsOfRank rank, h, rankOfRatio_zero]

/-- **A number is rounded to itself**, up to the sign of zero. -/
lemma key_ofSignedUnits_signedUnits (hx : x ≠ nan) : (ofSignedUnits x.signedUnits).key = x.key := by
  cases x with
  | nan => exact absurd rfl hx
  | signed s r hr =>
      rw [signedUnits_signed, ofSignedUnits, ofRatio, key_ofRank, natAbs_withSign,
        rankOfRatio_unitsOfRank, key_signed]
      have hmin : Nat.min r infinityRank = r := Nat.min_eq_left hr
      rw [hmin]
      cases s with
      | false => simp [withSign]
      | true =>
          by_cases hunits : unitsOfRank r = 0
          · rw [eq_zero_of_unitsOfRank hunits]
            decide
          · have hneg : withSign true (unitsOfRank r) < 0 := by
              change -(unitsOfRank r : Int) < 0
              omega
            rw [decide_eq_true hneg]

/-- **The exact value tells numbers apart**, up to the sign of zero. -/
lemma key_eq_of_signedUnits_eq (hx : x ≠ nan) (hy : y ≠ nan) (h : x.signedUnits = y.signedUnits) :
    x.key = y.key := by
  rw [← key_ofSignedUnits_signedUnits hx, h, key_ofSignedUnits_signedUnits hy]

/-- **A sum that is a number is not rounded.** -/
lemma key_add_of_exact (hx : x.isFinite = true) (hy : y.isFinite = true) (hz : z ≠ nan)
    (h : x.signedUnits + y.signedUnits = z.signedUnits) : (x.add y).key = z.key := by
  rw [key_add hx hy, h, key_ofSignedUnits_signedUnits hz]

/-- **A quotient that is a number is not rounded.** -/
lemma key_divCount_of_exact (hx : x.isFinite = true) (hz : z.isFinite = true) {count : Nat}
    (hcount : 0 < count) (h : x.signedUnits = count * z.signedUnits) :
    (x.divCount count).key = z.key := by
  cases x with
  | nan => cases hx
  | signed s r hr =>
      cases z with
      | nan => cases hz
      | signed t u hu =>
          have hr' : r < infinityRank := of_decide_eq_true hx
          have hu' : u < infinityRank := of_decide_eq_true hz
          rw [signedUnits_signed, signedUnits_signed, mul_withSign] at h
          have hunits : unitsOfRank r = count * unitsOfRank u := by
            rw [← natAbs_withSign s (unitsOfRank r), h, natAbs_withSign]
          have hscale := rankOfRatio_scale hcount (unitsOfRank u) 1
          rw [Nat.mul_one, rankOfRatio_unitsOfRank] at hscale
          rw [divCount_signed s hr hr', hunits, hscale]
          refine key_eq_of_signedUnits_eq nofun nofun ?_
          rw [signedUnits_ofRank s hu', signedUnits_signed]
          rw [hunits, ← mul_withSign, ← mul_withSign] at h
          exact Int.eq_of_mul_eq_mul_left (by omega) h

end RadarConform.Number
