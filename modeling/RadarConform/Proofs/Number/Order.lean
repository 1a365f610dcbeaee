import Mathlib.Tactic.Lemma
import RadarConform.Number.Rounding

/-!
# The order of numbers

The signed rank turns every comparison of numbers into one of integers, except where `nan` is among
them, which no comparison holds of.

* `Number.key` — the signed rank of a number.
* `Number.lt_iff`, `Number.le_iff`, `Number.eq_iff` — **comparisons are comparisons of keys**.
* `Number.lt_eq_not_le` — away from `nan` the order is total.
* `Number.lt_nan`, `Number.le_nan` — nothing is below `nan`.
* `Number.eq_or_zeros_of_key_eq` — the key tells all numbers apart but the two zeros, whose sign does
  not show in a distance either (`Number.abs_sub_of_zeros`).
-/

namespace RadarConform.Number

variable {x y z : Number}

lemma ne_nan_of_isFinite (h : x.isFinite = true) : x ≠ nan := by
  rintro rfl
  cases h

/-! ## Keys -/

/-- The signed rank of a number; `nan` has none and gets that of zero. -/
def key (x : Number) : Int := x.key?.getD 0

lemma key?_eq_some_key (h : x ≠ nan) : x.key? = some x.key := by
  cases x with
  | nan => exact absurd rfl h
  | signed => rfl

lemma lt_iff (hx : x ≠ nan) (hy : y ≠ nan) : x.lt y = true ↔ x.key < y.key := by
  simp only [lt, compareKeys, key?_eq_some_key hx, key?_eq_some_key hy, decide_eq_true_eq]

lemma le_iff (hx : x ≠ nan) (hy : y ≠ nan) : x.le y = true ↔ x.key ≤ y.key := by
  simp only [le, compareKeys, key?_eq_some_key hx, key?_eq_some_key hy, decide_eq_true_eq]

lemma eq_iff (hx : x ≠ nan) (hy : y ≠ nan) : x.eq y = true ↔ x.key = y.key := by
  simp only [eq, compareKeys, key?_eq_some_key hx, key?_eq_some_key hy, beq_iff_eq]

/-- **The order is total** away from `nan`. -/
lemma lt_eq_not_le (hx : x ≠ nan) (hy : y ≠ nan) : x.lt y = !y.le x := by
  rw [Bool.eq_iff_iff, lt_iff hx hy, Bool.not_eq_true', ← Bool.not_eq_true, le_iff hy hx]
  omega

lemma lt_eq_false_iff (hx : x ≠ nan) (hy : y ≠ nan) : x.lt y = false ↔ y.key ≤ x.key := by
  rw [lt_eq_not_le hx hy, Bool.not_eq_false', le_iff hy hx]

/-! ## Transitivity -/

/-- Only numbers with a key compare. -/
lemma ne_nan_of_compareKeys {test : Int → Int → Bool} (h : compareKeys test x y = true) :
    x ≠ nan ∧ y ≠ nan := by
  cases x with
  | nan => cases h
  | signed =>
      cases y with
      | nan => cases h
      | signed => exact ⟨by simp, by simp⟩

lemma le_trans (h : x.le y = true) (h' : y.le z = true) : x.le z = true := by
  obtain ⟨hx, hy⟩ := ne_nan_of_compareKeys h
  obtain ⟨-, hz⟩ := ne_nan_of_compareKeys h'
  rw [le_iff hx hy] at h
  rw [le_iff hy hz] at h'
  exact (le_iff hx hz).mpr (Int.le_trans h h')

lemma lt_of_lt_of_le (h : x.lt y = true) (h' : y.le z = true) : x.lt z = true := by
  obtain ⟨hx, hy⟩ := ne_nan_of_compareKeys h
  obtain ⟨-, hz⟩ := ne_nan_of_compareKeys h'
  rw [lt_iff hx hy] at h
  rw [le_iff hy hz] at h'
  exact (lt_iff hx hz).mpr (Int.lt_of_lt_of_le h h')

lemma lt_of_le_of_lt (h : x.le y = true) (h' : y.lt z = true) : x.lt z = true := by
  obtain ⟨hx, hy⟩ := ne_nan_of_compareKeys h
  obtain ⟨-, hz⟩ := ne_nan_of_compareKeys h'
  rw [le_iff hx hy] at h
  rw [lt_iff hy hz] at h'
  exact (lt_iff hx hz).mpr (Int.lt_of_le_of_lt h h')

/-! ## Comparisons with `nan` -/

lemma lt_nan (x : Number) : x.lt nan = false := by
  cases x <;> rfl

lemma le_nan (x : Number) : x.le nan = false := by
  cases x <;> rfl

/-! ## Zeros -/

lemma abs_eq_zero_iff : x.abs = zero ↔ x = zero ∨ x = zero.neg := by
  cases x with
  | nan => simp [abs, zero, neg]
  | signed negative rank h => cases negative <;> simp [abs, zero, neg]

/-- **Numbers of one key are the same**, or zeros. -/
lemma eq_or_zeros_of_key_eq (hx : x ≠ nan) (hy : y ≠ nan) (h : x.key = y.key) :
    x = y ∨ x.abs = zero ∧ y.abs = zero := by
  cases x with
  | nan => exact absurd rfl hx
  | signed s r hr =>
      cases y with
      | nan => exact absurd rfl hy
      | signed t u hu =>
          simp only [key, key?, Option.getD_some] at h
          simp only [abs, zero, signed.injEq, true_and]
          cases s <;> cases t <;> simp only [if_true, if_false, Bool.false_eq_true] at h ⊢ <;>
            simp <;> omega

/-- The sign of zero does not show in a distance: a sum of zeros loses it, and any other sum is
computed from the magnitudes, which are the same. -/
lemma abs_neg_zero_sub (t : Number) : (zero.neg.sub t).abs = (zero.sub t).abs := by
  cases t with
  | nan => rfl
  | signed s r h =>
      have hzero : (0 : Nat) ≠ infinityRank := by decide
      have hunits : (signed true 0 (Nat.zero_le _)).signedUnits =
          (signed false 0 (Nat.zero_le _)).signedUnits := by decide
      simp only [sub, neg, zero, add, Bool.not_false, if_neg hzero, hunits]
      split
      · rfl
      · split
        · rfl
        · rfl

lemma abs_sub_of_zeros (hx : x.abs = zero) (hy : y.abs = zero) (t : Number) :
    (x.sub t).abs = (y.sub t).abs := by
  have hdistance {z : Number} (hz : z.abs = zero) : (z.sub t).abs = (zero.sub t).abs := by
    rcases abs_eq_zero_iff.mp hz with rfl | rfl
    · rfl
    · exact abs_neg_zero_sub t
  rw [hdistance hx, hdistance hy]

end RadarConform.Number
