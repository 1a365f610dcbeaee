import RadarConform.Proofs.Number.Rank

/-!
# Bounds on magnitudes

A power of two is the first number of its binade, so it is exact, and rounding never crosses it.
That is all that is needed to see that a magnitude stays in the finite range.

* `Number.rankOfRatio_le`, `Number.le_rankOfRatio` — a ratio below, or above, a power of two is
  rounded to a number below, or above, it.
* `Number.unitsOfRank_le`, `Number.le_unitsOfRank` — the magnitude of a rank below, or above, the
  start of a binade.
* `Number.AtMost` — a number that is not greater than a power of two; such a number is finite.
-/

namespace RadarConform

namespace Number

/-! ## Ranks and powers of two -/

lemma binade_eq : binade = 2 ^ 52 := rfl

/-- A ratio not above a whole number is rounded to one not above it. -/
lemma roundHalfEven_le {num den n : Nat} (hden : 0 < den) (h : num ≤ n * den) :
    roundHalfEven num den ≤ n := by
  have hmod : num % den + den * (num / den) = num := Nat.mod_add_div num den
  rcases Nat.lt_or_ge (num / den) n with hlt | hge
  · simp only [roundHalfEven]
    split
    · omega
    · split <;> omega
  · -- The ratio is the whole number itself.
    have hq : num / den = n :=
      Nat.le_antisymm (Nat.div_le_of_le_mul (by rwa [Nat.mul_comm])) hge
    have hnum : num = n * den := by
      rw [hq, Nat.mul_comm den] at hmod
      omega
    exact Nat.le_of_eq (by rw [hnum, roundHalfEven_mul_self hden])

lemma div_le_roundHalfEven (num den : Nat) : num / den ≤ roundHalfEven num den := by
  simp only [roundHalfEven]
  split
  · exact Nat.le_refl _
  · split <;> omega

/-- Above the smallest binades the integer part of a ratio has 53 bits and the bits in excess. -/
lemma excessBits_le {num den k : Nat} (h : num / den < 2 ^ (53 + k)) : excessBits num den ≤ k := by
  rw [excessBits]
  by_cases hq : num / den = 0
  · simp [hq]
  · have := (Nat.log2_lt hq).mpr h
    omega

lemma le_excessBits {num den k : Nat} (h : 2 ^ (52 + k) ≤ num / den) : k ≤ excessBits num den := by
  have hq : num / den ≠ 0 := Nat.ne_of_gt (Nat.lt_of_lt_of_le (Nat.two_pow_pos _) h)
  have := (Nat.le_log2 hq).mpr h
  rw [excessBits]
  omega

lemma div_lt_excessBits (num den : Nat) :
    num / den < 2 ^ (53 + excessBits num den) := by
  by_cases hq : num / den = 0
  · rw [hq]
    exact Nat.two_pow_pos _
  · refine (Nat.log2_lt hq).mp ?_
    rw [excessBits]
    omega

/-- A mantissa has at most 53 bits, or is the power of two above them. -/
lemma roundHalfEven_le_two_binade (num : Nat) {den : Nat} (hden : 0 < den) :
    roundHalfEven num (den * 2 ^ excessBits num den) ≤ 2 * binade := by
  refine roundHalfEven_le (Nat.mul_pos hden (Nat.two_pow_pos _)) ?_
  have hlt := (Nat.div_lt_iff_lt_mul hden).mp (div_lt_excessBits num den)
  rw [Nat.pow_add] at hlt
  calc num ≤ 2 ^ 53 * 2 ^ excessBits num den * den := Nat.le_of_lt hlt
    _ = 2 * binade * (den * 2 ^ excessBits num den) := by
      rw [Nat.mul_assoc, Nat.mul_comm den]
      rfl

/-- Above the smallest binades a mantissa has all of its 53 bits. -/
lemma binade_le_roundHalfEven {num den : Nat} (h : 2 ^ 52 ≤ num / den) :
    binade ≤ roundHalfEven num (den * 2 ^ excessBits num den) := by
  refine Nat.le_trans ?_ (div_le_roundHalfEven _ _)
  have hq : num / den ≠ 0 := Nat.ne_of_gt (Nat.lt_of_lt_of_le (Nat.two_pow_pos _) h)
  have hlog := (Nat.le_log2 hq).mpr h
  rw [← Nat.div_div_eq_div_mul, Nat.le_div_iff_mul_le (Nat.two_pow_pos _), binade_eq, ← Nat.pow_add]
  refine (Nat.le_log2 hq).mp ?_
  rw [excessBits]
  omega

/-- **A ratio below a power of two** is rounded to a number that is not above it. -/
lemma rankOfRatio_le {num den k : Nat} (hden : 0 < den) (h : num ≤ 2 ^ (53 + k) * den) :
    rankOfRatio num den ≤ (k + 2) * binade := by
  rcases Nat.lt_or_eq_of_le h with hlt | heq
  · have hexcess : excessBits num den ≤ k :=
      excessBits_le ((Nat.div_lt_iff_lt_mul hden).mpr hlt)
    have hround := roundHalfEven_le_two_binade num hden
    have hstep := Nat.mul_le_mul_right binade hexcess
    rw [rankOfRatio, Nat.add_mul, Nat.pow_eq]
    omega
  · -- At the power of two itself: it is the first number of the next binade.
    have hscale := rankOfRatio_scale hden (2 ^ (53 + k)) 1
    have hpower : 2 ^ (53 + k) = binade * 2 ^ (k + 1) := by
      rw [binade_eq, ← Nat.pow_add]
      congr 1
      omega
    rw [heq, Nat.mul_comm, ← Nat.mul_one den, Nat.mul_assoc, Nat.one_mul, hscale, hpower,
      rankOfRatio_mantissa (Nat.le_refl _) (by decide)]
    simp only [Nat.add_mul, Nat.one_mul]
    omega

/-- **A ratio above a power of two** is rounded to a number that is not below it. -/
lemma le_rankOfRatio {num den k : Nat} (hden : 0 < den) (h : 2 ^ (52 + k) * den ≤ num) :
    (k + 1) * binade ≤ rankOfRatio num den := by
  have hdiv : 2 ^ (52 + k) ≤ num / den := (Nat.le_div_iff_mul_le hden).mpr h
  have hround := binade_le_roundHalfEven
    (Nat.le_trans (Nat.pow_le_pow_right (by decide) (Nat.le_add_right 52 k)) hdiv)
  have hstep := Nat.mul_le_mul_right binade (le_excessBits hdiv)
  rw [rankOfRatio, Nat.add_mul, Nat.one_mul, Nat.pow_eq]
  omega

/-- The magnitude of a rank up to the start of a binade. -/
lemma unitsOfRank_le {rank k : Nat} (h : rank ≤ (k + 2) * binade) :
    unitsOfRank rank ≤ 2 ^ (53 + k) := by
  have hbinade : 0 < binade := by decide
  rw [unitsOfRank, Nat.pow_eq]
  split
  · next hlow =>
    exact Nat.le_trans (Nat.le_of_lt hlow) (Nat.pow_le_pow_right (by decide) (by omega))
  · rcases Nat.lt_or_eq_of_le h with hlt | rfl
    · have hdiv : rank / binade < k + 2 := (Nat.div_lt_iff_lt_mul hbinade).mpr hlt
      have hmod : rank % binade < binade := Nat.mod_lt _ hbinade
      calc (binade + rank % binade) * 2 ^ (rank / binade - 1) ≤ (2 * binade) * 2 ^ k :=
            Nat.mul_le_mul (by omega) (Nat.pow_le_pow_right (by decide) (by omega))
        _ = 2 ^ (53 + k) := by
          rw [Nat.pow_add]
          rfl
    · rw [Nat.mul_mod_left, Nat.mul_div_cancel _ hbinade, Nat.add_zero, binade_eq, ← Nat.pow_add]
      exact Nat.le_of_eq (congrArg _ (by omega))

/-- The magnitude of a rank from the start of a binade on. -/
lemma le_unitsOfRank {rank k : Nat} (h : (k + 1) * binade ≤ rank) :
    2 ^ (52 + k) ≤ unitsOfRank rank := by
  have hbinade : 0 < binade := by decide
  have hdiv : k + 1 ≤ rank / binade := (Nat.le_div_iff_mul_le hbinade).mpr h
  rw [unitsOfRank, Nat.pow_eq, if_neg (Nat.not_lt.mpr (Nat.le_trans ?_ h)), Nat.pow_add]
  · exact Nat.mul_le_mul (Nat.le_add_right _ _) (Nat.pow_le_pow_right (by decide) (by omega))
  · exact Nat.le_mul_of_pos_left _ (Nat.succ_pos k)

lemma unitsOfOne_pos : 0 < unitsOfOne := by decide +kernel

/-! ## Numbers below a power of two -/

/-- A number that is not greater than the power of two with which a binade starts. -/
def AtMost (k : Nat) : Number → Prop
  | nan => False
  | signed _ rank _ => rank ≤ (k + 2) * binade

variable {k : Nat} {x : Number}

lemma AtMost.isFinite (h : x.AtMost k) (hk : k < 2045) : x.isFinite = true := by
  cases x with
  | nan => exact h.elim
  | signed negative rank bounded =>
      have hlt : (k + 2) * binade < 2047 * binade :=
        Nat.mul_lt_mul_of_pos_right (by omega) (by decide)
      exact decide_eq_true (Nat.lt_of_le_of_lt h hlt)

lemma AtMost.units_le (h : x.AtMost k) : x.units ≤ 2 ^ (53 + k) := by
  cases x with
  | nan => exact h.elim
  | signed => exact unitsOfRank_le h

lemma atMost_ofRatio (negative : Bool) {num den : Nat} (hden : 0 < den)
    (h : num ≤ 2 ^ (53 + k) * den) : (ofRatio negative num den).AtMost k :=
  Nat.le_trans (Nat.min_le_left _ _) (rankOfRatio_le hden h)

lemma isFinite_neg (x : Number) : x.neg.isFinite = x.isFinite := by
  cases x <;> rfl

end Number

end RadarConform
