import RadarConform.Number.Decimal
import Mathlib.Algebra.Group.Nat.Defs
import Mathlib.Tactic.Lemma

/-!
# The rank of a decimal

A decimal is read by one exact rounding, and which rank comes out depends on its value only, not on
how the value is divided between the digits and the power of ten.

* `Number.rankOfRatio_scale` — the rank of a ratio is the rank of the same ratio in other terms.
* `Number.rankOfRatio_mantissaOf` — a magnitude that is a number is rounded to itself.
* `Decimal.rank_shift` — **zeros at the end of the digits may go into the power of ten**.
* `Number.rank_exact`, `Number.rank_shortest` — the exact decimal of a finite rank, and the shortest
  one, read back as the rank.

The cuts by size before the ratio is formed are no more than a shortcut: by `Decimal.length_large`,
`Decimal.length_small_le` and `Decimal.le_length_small` no finite number gets near them.
-/

namespace RadarConform

namespace Number

/-! ## Ratios -/

lemma roundHalfEven_scale {c : Nat} (hc : 0 < c) (num den : Nat) :
    roundHalfEven (c * num) (c * den) = roundHalfEven num den := by
  have hlt (a b : Nat) : 2 * (c * a) < c * b ↔ 2 * a < b := by
    rw [Nat.mul_left_comm]
    exact Nat.mul_lt_mul_left hc
  have hgt (a b : Nat) : c * b < 2 * (c * a) ↔ b < 2 * a := by
    rw [Nat.mul_left_comm]
    exact Nat.mul_lt_mul_left hc
  simp only [roundHalfEven, Nat.mul_div_mul_left _ _ hc, Nat.mul_mod_mul_left, hlt, hgt]

lemma rankOfRatio_scale {c : Nat} (hc : 0 < c) (num den : Nat) :
    rankOfRatio (c * num) (c * den) = rankOfRatio num den := by
  simp only [rankOfRatio, excessBits, Nat.mul_div_mul_left _ _ hc, Nat.mul_assoc,
    roundHalfEven_scale hc]

lemma roundHalfEven_mul_self {den : Nat} (hden : 0 < den) (n : Nat) :
    roundHalfEven (n * den) den = n := by
  simp [roundHalfEven, Nat.mul_div_cancel _ hden, hden]

/-- A mantissa of 53 bits, at any power of two, is rounded to itself. -/
lemma rankOfRatio_mantissa {mantissa : Nat} (hlow : binade ≤ mantissa)
    (hhigh : mantissa < 2 * binade) (shift : Nat) :
    rankOfRatio (mantissa * 2 ^ shift) 1 = shift * binade + mantissa := by
  have hpow : 0 < 2 ^ shift := Nat.two_pow_pos shift
  have hlog : Nat.log2 (mantissa * 2 ^ shift) = 52 + shift := by
    have hne : mantissa * 2 ^ shift ≠ 0 :=
      Nat.mul_ne_zero (Nat.ne_of_gt (Nat.lt_of_lt_of_le (by decide) hlow)) (Nat.ne_of_gt hpow)
    refine (Nat.log2_eq_iff hne).mpr ⟨?_, ?_⟩
    · rw [Nat.pow_add]
      exact Nat.mul_le_mul_right _ hlow
    · rw [show 52 + shift + 1 = 53 + shift by omega, Nat.pow_add]
      exact Nat.mul_lt_mul_of_pos_right hhigh hpow
  simp only [rankOfRatio, excessBits, Nat.div_one, hlog, Nat.add_sub_cancel_left, Nat.one_mul,
    Nat.pow_eq, roundHalfEven_mul_self hpow]

/-- Below the first binade a magnitude is its own rank. -/
lemma rankOfRatio_subnormal {n : Nat} (h : n < binade) : rankOfRatio n 1 = n := by
  have hlog : Nat.log2 n ≤ 52 := by
    by_cases hn : n = 0
    · simp [hn]
    · exact Nat.le_of_lt_succ ((Nat.log2_lt hn).mpr (Nat.lt_trans h (by decide)))
  have hexcess : excessBits n 1 = 0 := by
    rw [excessBits, Nat.div_one]
    omega
  simpa [rankOfRatio, hexcess] using roundHalfEven_mul_self Nat.one_pos n

/-! ## Magnitudes -/

/-- The integer that a rank stands for up to a power of two. -/
def mantissaOf (rank : Nat) : Nat := if rank < binade then rank else binade + rank % binade

/-- That power of two. -/
def shiftOf (rank : Nat) : Nat := rank / binade - 1

lemma mantissaOf_lt (rank : Nat) : mantissaOf rank < 2 * binade := by
  have hmod : rank % binade < binade := Nat.mod_lt _ (by decide)
  simp only [mantissaOf]
  split <;> omega

/-- A mantissa and its power of two are rounded to the rank they come from. -/
lemma rankOfRatio_mantissaOf (rank : Nat) :
    rankOfRatio (mantissaOf rank * 2 ^ shiftOf rank) 1 = rank := by
  have hbinade : 0 < binade := by decide
  by_cases h : rank < binade
  · rw [mantissaOf, if_pos h, shiftOf, Nat.div_eq_of_lt h, Nat.pow_zero, Nat.mul_one]
    exact rankOfRatio_subnormal h
  · have hmod : rank % binade < binade := Nat.mod_lt _ hbinade
    have hquotient : 1 ≤ rank / binade :=
      (Nat.one_le_div_iff hbinade).mpr (Nat.le_of_not_lt h)
    rw [mantissaOf, if_neg h, rankOfRatio_mantissa (Nat.le_add_right ..) (by omega), shiftOf]
    calc (rank / binade - 1) * binade + (binade + rank % binade)
        = (rank / binade - 1 + 1) * binade + rank % binade := by
          rw [Nat.add_mul, Nat.one_mul]
          omega
      _ = binade * (rank / binade) + rank % binade := by
          rw [Nat.sub_add_cancel hquotient, Nat.mul_comm]
      _ = rank := Nat.div_add_mod rank binade

end Number

namespace Decimal

open Number

/-! ## Zeros at the end of the digits -/

lemma length_ten_mul {n : Nat} (h : n ≠ 0) : length (10 * n) = length n + 1 := by
  rw [length, Nat.toDigits_of_base_le (by decide) (by omega)]
  simp [length]

/-- **One zero.**  Ten times the digits is one more in the power of ten. -/
lemma rank_ten_mul (n : Nat) (e : Int) : rank ⟨10 * n, e⟩ = rank ⟨n, e + 1⟩ := by
  by_cases hn : n = 0
  · simp [rank, hn]
  have hsize : (length (10 * n) : Int) + e = length n + (e + 1) := by
    rw [length_ten_mul hn]
    omega
  simp only [rank, hsize, Nat.mul_eq_zero, hn, or_false, if_false, show (10 : Nat) ≠ 0 by decide]
  split
  · rfl
  split
  · rfl
  have hten (a b : Nat) : rankOfRatio (10 * a) (10 * b) = rankOfRatio a b :=
    rankOfRatio_scale (by decide) a b
  obtain he | rfl | he : 0 ≤ e ∨ e = -1 ∨ e < -1 := by omega
  · have hpow : Nat.pow 10 (e + 1).toNat = 10 * Nat.pow 10 e.toNat := by
      rw [show (e + 1).toNat = e.toNat + 1 by omega, Nat.pow_eq, Nat.pow_succ, Nat.mul_comm]
      rfl
    rw [if_pos he, if_pos (by omega), hpow, Nat.mul_assoc 10, Nat.mul_left_comm n 10]
  · rw [if_neg (by decide), if_pos (by decide), Nat.mul_assoc]
    exact (hten (n * unitsOfOne) 1).trans (by simp [Nat.pow_eq])
  · have hpow : Nat.pow 10 (-e).toNat = 10 * Nat.pow 10 (-(e + 1)).toNat := by
      rw [show (-e).toNat = (-(e + 1)).toNat + 1 by omega, Nat.pow_eq, Nat.pow_succ, Nat.mul_comm]
      rfl
    rw [if_neg (by omega), if_neg (by omega), hpow, Nat.mul_assoc]
    exact hten _ _

/-- **Zeros.**  A power of ten in the digits may as well stand in the exponent. -/
lemma rank_shift (n k : Nat) (e : Int) : rank ⟨n * 10 ^ k, e⟩ = rank ⟨n, e + k⟩ := by
  induction k generalizing e with
  | zero => simp
  | succ k ih =>
      calc rank ⟨n * 10 ^ (k + 1), e⟩
          = rank ⟨10 * (n * 10 ^ k), e⟩ := by rw [Nat.pow_succ, ← Nat.mul_assoc, Nat.mul_comm]
        _ = rank ⟨n, e + 1 + k⟩ := by rw [rank_ten_mul, ih]
        _ = rank ⟨n, e + (k + 1 : Nat)⟩ := by
          rw [show e + 1 + (k : Int) = e + (k + 1 : Nat) by omega]

lemma rank_stripZeros (fuel : Nat) (d : Decimal) : (d.stripZeros fuel).rank = d.rank := by
  induction fuel generalizing d with
  | zero => rfl
  | succ fuel ih =>
      simp only [stripZeros]
      split
      · next h =>
          have hdigits : 10 * (d.digits / 10) = d.digits := by omega
          rw [ih, ← rank_ten_mul, hdigits]
      · rfl

/-! ## The exact decimal of a rank -/

lemma length_le {n k : Nat} (hk : 0 < k) (h : n < 10 ^ k) : length n ≤ k :=
  (Nat.length_toDigits_le_iff (by decide) hk).mpr h

lemma lt_length {n k : Nat} (h : 10 ^ k ≤ n) : k < length n := by
  rcases Nat.eq_zero_or_pos k with rfl | hk
  · exact Nat.length_toDigits_pos
  · exact Nat.lt_of_not_le fun hle =>
      absurd ((Nat.length_toDigits_le_iff (by decide) hk).mp hle) (Nat.not_lt.mpr h)

/-- A whole number among the finite numbers has fewer digits than the cut allows. -/
lemma length_large {mantissa k : Nat} (hm : mantissa < 2 * binade) (hk : k ≤ 971) :
    length (mantissa * 2 ^ k) ≤ 310 := by
  refine length_le (by decide) ?_
  calc mantissa * 2 ^ k ≤ (2 * binade) * 2 ^ 971 :=
        Nat.mul_le_mul (Nat.le_of_lt hm) (Nat.pow_le_pow_right (by decide) hk)
    _ < 10 ^ 310 := by decide +kernel

/-- A number with places after the point has at most sixteen digits before it. -/
lemma length_small_le {mantissa k : Nat} (hm : mantissa < 2 * binade) :
    length (mantissa * 5 ^ k) ≤ 16 + k := by
  refine length_le (by omega) ?_
  rw [Nat.pow_add]
  calc mantissa * 5 ^ k < 10 ^ 16 * 5 ^ k :=
        Nat.mul_lt_mul_of_pos_right (Nat.lt_trans hm (by decide)) (Nat.pow_pos (by decide))
    _ ≤ 10 ^ 16 * 10 ^ k := Nat.mul_le_mul_left _ (Nat.pow_le_pow_left (by decide) k)

lemma two_pow_le : 2 ^ 743 ≤ 5 ^ 331 := by decide +kernel

/-- Not even the smallest number has more than 330 zeros after the point. -/
lemma le_length_small {mantissa k : Nat} (hm : 0 < mantissa) (hk : k ≤ 1074) :
    k ≤ length (mantissa * 5 ^ k) + 330 := by
  by_cases hsmall : k ≤ 330
  · omega
  · obtain ⟨j, rfl⟩ : ∃ j, k = 331 + j := ⟨k - 331, by omega⟩
    have htwo : 2 ^ j ≤ 5 ^ 331 :=
      Nat.le_trans (Nat.pow_le_pow_right (by decide) (by omega)) two_pow_le
    have hpow : 10 ^ j ≤ mantissa * 5 ^ (331 + j) := by
      calc 10 ^ j = 2 ^ j * 5 ^ j := by rw [← Nat.mul_pow]
        _ ≤ 5 ^ 331 * 5 ^ j := Nat.mul_le_mul_right _ htwo
        _ = 1 * 5 ^ (331 + j) := by rw [Nat.pow_add, Nat.one_mul]
        _ ≤ mantissa * 5 ^ (331 + j) := Nat.mul_le_mul_right _ hm
    have := lt_length hpow
    omega

/-- A decimal of a size between the cuts is the rounding of its ratio. -/
lemma rank_of_places {n k : Nat} (hne : n ≠ 0) (hhigh : length n ≤ 310 + k)
    (hlow : k ≤ length n + 330) : rank ⟨n, -k⟩ = rankOfRatio (n * unitsOfOne) (10 ^ k) := by
  simp only [rank, if_neg hne]
  rw [if_neg (by omega), if_neg (by omega)]
  split
  · next h =>
      obtain rfl : k = 0 := by omega
      simp [Nat.pow_eq]
  · simp [Nat.pow_eq]

lemma rank_of_whole {n : Nat} (hne : n ≠ 0) (hlength : length n ≤ 310) :
    rank ⟨n, 0⟩ = rankOfRatio (n * unitsOfOne) 1 :=
  rank_of_places (k := 0) hne hlength (Nat.zero_le _)

end Decimal

namespace Number

open Decimal

lemma unitsOfOne_eq {s k : Nat} (h : s + k = 1074) : unitsOfOne = 2 ^ s * 2 ^ k := by
  rw [← Nat.pow_add, h, unitsOfOne, Nat.pow_eq]

lemma exact_eq (rank : Nat) :
    exact rank = if 1074 ≤ shiftOf rank then ⟨mantissaOf rank * 2 ^ (shiftOf rank - 1074), 0⟩
      else ⟨mantissaOf rank * 5 ^ (1074 - shiftOf rank), (shiftOf rank : Int) - 1074⟩ := rfl

/-- **The exact decimal.**  The digits of a finite magnitude written out in full are read as the
rank of the magnitude. -/
lemma rank_exact {rank : Nat} (hpos : rank ≠ 0) (hfinite : rank < infinityRank) :
    (exact rank).rank = rank := by
  have hm : 0 < mantissaOf rank := by
    simp only [mantissaOf]
    split
    · omega
    · exact Nat.lt_of_lt_of_le (by decide) (Nat.le_add_right ..)
  have hshift : shiftOf rank ≤ 2045 := by
    have : rank / binade < 2047 := (Nat.div_lt_iff_lt_mul (by decide)).mpr hfinite
    rw [shiftOf]
    omega
  rw [exact_eq]
  split
  · next hlarge =>
      have hlength := length_large (mantissaOf_lt rank) (show shiftOf rank - 1074 ≤ 971 by omega)
      have hne : mantissaOf rank * 2 ^ (shiftOf rank - 1074) ≠ 0 :=
        Nat.mul_ne_zero (Nat.ne_of_gt hm) (Nat.ne_of_gt (Nat.two_pow_pos _))
      have hunits : mantissaOf rank * 2 ^ (shiftOf rank - 1074) * unitsOfOne =
          mantissaOf rank * 2 ^ shiftOf rank := by
        rw [unitsOfOne_eq (Nat.zero_add 1074), Nat.pow_zero, Nat.one_mul, Nat.mul_assoc,
          ← Nat.pow_add, Nat.sub_add_cancel hlarge]
      rw [rank_of_whole hne hlength, hunits, rankOfRatio_mantissaOf]
  · next hsmall =>
      obtain ⟨k, hk⟩ : ∃ k, shiftOf rank + k = 1074 := ⟨1074 - shiftOf rank, by omega⟩
      have hplaces : 1074 - shiftOf rank = k := by omega
      have hexponent : (shiftOf rank : Int) - 1074 = -k := by omega
      have hlength := length_small_le (k := k) (mantissaOf_lt rank)
      have hsize := le_length_small hm (show k ≤ 1074 by omega)
      have hne : mantissaOf rank * 5 ^ k ≠ 0 :=
        Nat.mul_ne_zero (Nat.ne_of_gt hm) (Nat.ne_of_gt (Nat.pow_pos (by decide)))
      have hunits : mantissaOf rank * 5 ^ k * unitsOfOne =
          10 ^ k * (mantissaOf rank * 2 ^ shiftOf rank) := by
        rw [unitsOfOne_eq hk, Nat.mul_mul_mul_comm, ← Nat.mul_pow, Nat.mul_comm]
      rw [hplaces, hexponent, rank_of_places hne (by omega) hsize, hunits,
        ← Nat.mul_one (10 ^ k), Nat.mul_assoc, Nat.one_mul,
        rankOfRatio_scale (Nat.pow_pos (by decide)), rankOfRatio_mantissaOf]

/-! ## The fewest digits -/

lemma rank_of_search {tieUp : Nat → Bool} {rank length tries count : Nat} {whole d : Decimal}
    (h : search tieUp rank whole length tries count = some d) : d.rank = rank := by
  induction tries generalizing count with
  | zero => cases h
  | succ tries ih =>
      simp only [search] at h
      split at h
      · next hfind =>
          cases h
          have hrank := List.find?_some hfind
          exact eq_of_beq hrank
      · exact ih h

/-- **The shortest decimal** of a finite rank reads back as the rank. -/
lemma rank_shortest (tieUp : Nat → Bool) {rank : Nat} (hfinite : rank < infinityRank) :
    (shortest tieUp rank).rank = rank := by
  simp only [shortest]
  split
  · next h => simp [Decimal.rank, h]
  · next hpos =>
      split
      · next hsearch => rw [rank_stripZeros, rank_of_search hsearch]
      · exact rank_exact hpos hfinite

end Number

end RadarConform
