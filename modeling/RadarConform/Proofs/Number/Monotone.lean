import Mathlib.Data.List.Forall2
import Mathlib.Data.Nat.Log
import Mathlib.Order.MinMax
import Mathlib.Order.Monotone.Basic
import RadarConform.Proofs.Number.Magnitude
import RadarConform.Proofs.Number.Order

/-!
# Rounded arithmetic is monotone

Rounding never turns a greater result into a smaller one, so sums and quotients grow with what they
are computed from.  Infinities are no exception as long as what is added is finite: a sum that has
left the finite range stays where it is.

* `Number.rankOfRatio_mono`, `Number.unitsOfRank_mono` — **rounding and magnitudes are monotone**.
* `Number.withSign_mono` — what is monotone on magnitudes is so on numbers.
* `Number.key_add_mono`, `Number.key_divCount_mono` — **sums and quotients are monotone**.
* `Number.key_foldl_add_mono` — and so is the sum of a sequence, from left to right.
-/

namespace RadarConform.Number

/-! ## Ratios -/

/-- A larger ratio is not rounded to a smaller whole number. -/
lemma roundHalfEven_mono {num num' : Nat} (den : Nat) (h : num ≤ num') :
    roundHalfEven num den ≤ roundHalfEven num' den := by
  have hdiv : num / den ≤ num' / den := Nat.div_le_div_right h
  have hmod := Nat.mod_add_div num den
  have hmod' := Nat.mod_add_div num' den
  rcases Nat.lt_or_eq_of_le hdiv with hlt | heq
  · have hle : roundHalfEven num den ≤ num / den + 1 := by
      simp only [roundHalfEven]
      split
      · omega
      · split <;> omega
    exact (hle.trans hlt).trans (div_le_roundHalfEven num' den)
  · -- Between the same whole numbers the rest decides, and it is not smaller.
    rw [heq] at hmod
    have hrest : num % den ≤ num' % den := by omega
    simp only [roundHalfEven, heq]
    split_ifs <;> omega

lemma excessBits_mono {num num' : Nat} (den : Nat) (h : num ≤ num') :
    excessBits num den ≤ excessBits num' den := by
  rw [excessBits, excessBits, Nat.log2_eq_log_two, Nat.log2_eq_log_two]
  exact Nat.sub_le_sub_right (Nat.log_mono_right (Nat.div_le_div_right h)) 52

lemma two_pow_le_of_excessBits {num den : Nat} (hden : 0 < den) (h : excessBits num den ≠ 0) :
    2 ^ (52 + excessBits num den) * den ≤ num := by
  have hlog : 52 + excessBits num den = Nat.log2 (num / den) := by
    rw [excessBits] at h ⊢
    omega
  have hq : num / den ≠ 0 := by
    intro hq
    rw [excessBits, hq] at h
    exact h rfl
  exact (Nat.le_div_iff_mul_le hden).mp ((Nat.le_log2 hq).mp (Nat.le_of_eq hlog))

/-- **Rounding is monotone.**  Where the powers of two differ, one lies between the ratios. -/
lemma rankOfRatio_mono {num num' den : Nat} (hden : 0 < den) (h : num ≤ num') :
    rankOfRatio num den ≤ rankOfRatio num' den := by
  rcases Nat.lt_or_eq_of_le (excessBits_mono den h) with hlt | heq
  · have hbelow : num ≤ 2 ^ (53 + excessBits num den) * den :=
      Nat.le_of_lt ((Nat.div_lt_iff_lt_mul hden).mp (div_lt_excessBits num den))
    have habove := two_pow_le_of_excessBits hden (Nat.ne_zero_of_lt hlt)
    calc rankOfRatio num den ≤ (excessBits num den + 2) * binade := rankOfRatio_le hden hbelow
      _ ≤ (excessBits num' den + 1) * binade := Nat.mul_le_mul_right _ (by omega)
      _ ≤ rankOfRatio num' den := le_rankOfRatio hden habove
  · rw [rankOfRatio, rankOfRatio, heq]
    exact Nat.add_le_add_left (roundHalfEven_mono _ h) _

lemma rankOfRatio_zero (den : Nat) : rankOfRatio 0 den = 0 := by
  simp [rankOfRatio, excessBits, roundHalfEven]

/-- Rounding the magnitude of a rank gives the rank. -/
lemma rankOfRatio_unitsOfRank (rank : Nat) : rankOfRatio (unitsOfRank rank) 1 = rank := by
  have hunits : unitsOfRank rank = mantissaOf rank * 2 ^ shiftOf rank := by
    rw [unitsOfRank, mantissaOf, shiftOf, Nat.pow_eq]
    split
    · next h => rw [Nat.div_eq_of_lt h, Nat.pow_zero, Nat.mul_one]
    · rfl
  rw [hunits, rankOfRatio_mantissaOf]

/-- **Magnitudes grow with the rank**, since rounding recovers the rank. -/
lemma unitsOfRank_mono : Monotone unitsOfRank := by
  intro r u h
  by_contra hlt
  have hle := rankOfRatio_mono Nat.one_pos (Nat.le_of_not_le hlt)
  rw [rankOfRatio_unitsOfRank, rankOfRatio_unitsOfRank] at hle
  exact hlt (Nat.le_of_eq (congrArg unitsOfRank (Nat.le_antisymm h hle)))

/-! ## Signs -/

/-- A magnitude with a sign. -/
def withSign (negative : Bool) (n : Nat) : Int := if negative then -(n : Int) else n

lemma key_signed (negative : Bool) (rank : Nat) (h : rank ≤ infinityRank) :
    (signed negative rank h).key = withSign negative rank := rfl

lemma signedUnits_signed (negative : Bool) (rank : Nat) (h : rank ≤ infinityRank) :
    (signed negative rank h).signedUnits = withSign negative (unitsOfRank rank) := rfl

lemma key_ofRank (negative : Bool) (rank : Nat) :
    (ofRank negative rank).key = withSign negative (Nat.min rank infinityRank) := rfl

lemma withSign_natAbs (n : Int) : withSign (n < 0) n.natAbs = n := by
  rw [withSign]
  split
  · next h =>
      have hneg : n < 0 := of_decide_eq_true h
      omega
  · next h =>
      have hnonneg : ¬ n < 0 := by simpa using h
      omega

/-- What is monotone on magnitudes and keeps zero is monotone on magnitudes with signs. -/
lemma withSign_mono {f : Nat → Nat} (hf : Monotone f) (hzero : f 0 = 0) {s t : Bool} {m n : Nat}
    (h : withSign s m ≤ withSign t n) : withSign s (f m) ≤ withSign t (f n) := by
  cases s with
  | false =>
      cases t with
      | false =>
          have hmn := hf (Int.ofNat_le.mp h)
          exact Int.ofNat_le.mpr hmn
      | true =>
          -- Only zeros are both above and below.
          have hle : (m : Int) ≤ -(n : Int) := h
          obtain ⟨rfl, rfl⟩ : m = 0 ∧ n = 0 := by omega
          rw [hzero]
          exact Int.le_refl 0
  | true =>
      cases t with
      | false =>
          have hle : -(f m : Int) ≤ f n := by omega
          exact hle
      | true =>
          have hmn := hf (Int.ofNat_le.mp (Int.neg_le_neg_iff.mp h))
          exact Int.neg_le_neg (Int.ofNat_le.mpr hmn)

variable {x y x' y' : Number}

/-- **The exact values are ordered as the numbers.** -/
lemma signedUnits_mono (hx : x ≠ nan) (hy : y ≠ nan) (h : x.key ≤ y.key) :
    x.signedUnits ≤ y.signedUnits := by
  cases x with
  | nan => exact absurd rfl hx
  | signed s r hr =>
      cases y with
      | nan => exact absurd rfl hy
      | signed t u hu => exact withSign_mono unitsOfRank_mono (by decide) h

/-- The rank of a rounded magnitude, in the range of ranks. -/
lemma roundedRank_mono {den : Nat} (hden : 0 < den) :
    Monotone fun num => Nat.min (rankOfRatio num den) infinityRank :=
  fun _ _ h => min_le_min_right _ (rankOfRatio_mono hden h)

lemma key_ofSignedUnits_mono {m n : Int} (h : m ≤ n) :
    (ofSignedUnits m).key ≤ (ofSignedUnits n).key := by
  have hmono := roundedRank_mono Nat.one_pos
  have hzero : Nat.min (rankOfRatio 0 1) infinityRank = 0 := by
    rw [rankOfRatio_zero]
    exact Nat.zero_min _
  refine withSign_mono hmono hzero ?_
  rwa [withSign_natAbs, withSign_natAbs]

/-! ## Finite and infinite numbers -/

lemma isFinite_or_eq_infinity (hx : x ≠ nan) : x.isFinite = true ∨ ∃ s, x = infinity s := by
  cases x with
  | nan => exact absurd rfl hx
  | signed s r hr =>
      rcases Nat.lt_or_eq_of_le hr with hlt | rfl
      · exact .inl (decide_eq_true hlt)
      · exact .inr ⟨s, rfl⟩

/-- The keys of the infinities are the least and the greatest. -/
lemma key_bounds (x : Number) :
    (infinity true).key ≤ x.key ∧ x.key ≤ (infinity false).key := by
  cases x with
  | nan => decide
  | signed s r hr =>
      cases s with
      | false =>
          change -(infinityRank : Int) ≤ r ∧ (r : Int) ≤ infinityRank
          omega
      | true =>
          change -(infinityRank : Int) ≤ -r ∧ -(r : Int) ≤ infinityRank
          omega

lemma key_ne_key_infinity (hx : x.isFinite = true) (s : Bool) : x.key ≠ (infinity s).key := by
  cases x with
  | nan => cases hx
  | signed t r hr =>
      have hlt : r < infinityRank := of_decide_eq_true hx
      rw [infinity, key_signed, key_signed, withSign, withSign]
      split_ifs <;> omega

/-- **An infinity is only ordered before or after what is on its own side.** -/
lemma eq_infinity_of_le (hy : y ≠ nan) (h : (infinity false).key ≤ y.key) : y = infinity false := by
  rcases isFinite_or_eq_infinity hy with hfinite | ⟨s, rfl⟩
  · exact absurd (Int.le_antisymm (key_bounds y).2 h) (key_ne_key_infinity hfinite false)
  · cases s with
    | false => rfl
    | true => exact absurd h (by decide)

lemma eq_infinity_of_ge (hx : x ≠ nan) (h : x.key ≤ (infinity true).key) : x = infinity true := by
  rcases isFinite_or_eq_infinity hx with hfinite | ⟨s, rfl⟩
  · exact absurd (Int.le_antisymm h (key_bounds x).1) (key_ne_key_infinity hfinite true)
  · cases s with
    | true => rfl
    | false => exact absurd h (by decide)

/-! ## Sums -/

/-- A sum of finite numbers is that of the exact values, rounded, up to the sign of zero. -/
lemma key_add (hx : x.isFinite = true) (hy : y.isFinite = true) :
    (x.add y).key = (ofSignedUnits (x.signedUnits + y.signedUnits)).key := by
  cases x with
  | nan => cases hx
  | signed s r hr =>
      cases y with
      | nan => cases hy
      | signed t u hu =>
          have hr' : r ≠ infinityRank := Nat.ne_of_lt (of_decide_eq_true hx)
          have hu' : u ≠ infinityRank := Nat.ne_of_lt (of_decide_eq_true hy)
          simp only [add, if_neg hr', if_neg hu']
          split
          · next hzeros =>
              obtain ⟨rfl, rfl⟩ := hzeros
              have hunits (b : Bool) : (signed b 0 (Nat.zero_le _)).signedUnits = 0 := by
                cases b with
                | true | false => decide
              rw [hunits, hunits]
              cases s && t with
              | true | false => decide
          · rfl

/-- A sum that has left the finite range stays where it is. -/
lemma infinity_add (s : Bool) (hy : y.isFinite = true) : (infinity s).add y = infinity s := by
  cases y with
  | nan => cases hy
  | signed t u hu =>
      have hu' : u ≠ infinityRank := Nat.ne_of_lt (of_decide_eq_true hy)
      simp [infinity, add, hu']

lemma add_ne_nan (hx : x ≠ nan) (hy : y.isFinite = true) : x.add y ≠ nan := by
  rcases isFinite_or_eq_infinity hx with hfinite | ⟨s, rfl⟩
  · cases x with
    | nan => cases hfinite
    | signed s r hr =>
        cases y with
        | nan => cases hy
        | signed t u hu =>
            have hr' : r ≠ infinityRank := Nat.ne_of_lt (of_decide_eq_true hfinite)
            have hu' : u ≠ infinityRank := Nat.ne_of_lt (of_decide_eq_true hy)
            simp only [add, if_neg hr', if_neg hu']
            split
            · simp
            · simp [ofSignedUnits, ofRatio, ofRank]
  · rw [infinity_add s hy]
    simp [infinity]

/-- **Sums are monotone** in both parts, the second of which is finite. -/
lemma key_add_mono (hx : x ≠ nan) (hx' : x' ≠ nan) (hy : y.isFinite = true)
    (hy' : y'.isFinite = true) (hle : x.key ≤ x'.key) (hle' : y.key ≤ y'.key) :
    (x.add y).key ≤ (x'.add y').key := by
  rcases isFinite_or_eq_infinity hx with hfinite | ⟨s, rfl⟩
  · rcases isFinite_or_eq_infinity hx' with hfinite' | ⟨s, rfl⟩
    · rw [key_add hfinite hy, key_add hfinite' hy']
      exact key_ofSignedUnits_mono (Int.add_le_add (signedUnits_mono hx hx' hle)
        (signedUnits_mono (ne_nan_of_isFinite hy) (ne_nan_of_isFinite hy') hle'))
    · cases s with
      | false =>
          rw [infinity_add false hy']
          exact (key_bounds _).2
      | true =>
          cases eq_infinity_of_ge hx hle
          cases hfinite
  · cases s with
    | false =>
        cases eq_infinity_of_le hx' hle
        rw [infinity_add false hy, infinity_add false hy']
    | true =>
        rw [infinity_add true hy]
        exact (key_bounds _).1

/-- **The sum of a sequence is monotone** in its elements and in what it starts from. -/
lemma key_foldl_add_mono {xs ys : List Number}
    (h : List.Forall₂ (fun x y => x.key ≤ y.key) xs ys) (hxs : ∀ x ∈ xs, x.isFinite = true)
    (hys : ∀ y ∈ ys, y.isFinite = true) (hx : x ≠ nan) (hy : y ≠ nan) (hle : x.key ≤ y.key) :
    (xs.foldl add x).key ≤ (ys.foldl add y).key := by
  induction h generalizing x y with
  | nil => exact hle
  | @cons a b xs ys hab _ ih =>
      obtain ⟨ha, hxs⟩ := List.forall_mem_cons.mp hxs
      obtain ⟨hb, hys⟩ := List.forall_mem_cons.mp hys
      exact ih hxs hys (add_ne_nan hx ha) (add_ne_nan hy hb) (key_add_mono hx hy ha hb hle hab)

lemma foldl_add_ne_nan {xs : List Number} (hxs : ∀ x ∈ xs, x.isFinite = true) (hx : x ≠ nan) :
    xs.foldl add x ≠ nan := by
  induction xs generalizing x with
  | nil => exact hx
  | cons a xs ih =>
      obtain ⟨ha, hxs⟩ := List.forall_mem_cons.mp hxs
      exact ih hxs (add_ne_nan hx ha)

/-! ## Quotients -/

/-- The rank of the quotient of a magnitude by a count. -/
def quotientRank (count rank : Nat) : Nat :=
  if infinityRank ≤ rank then infinityRank
  else Nat.min (rankOfRatio (unitsOfRank rank) count) infinityRank

lemma quotientRank_mono {count : Nat} (hcount : 0 < count) : Monotone (quotientRank count) := by
  intro r u h
  rw [quotientRank, quotientRank]
  split
  · next hr => rw [if_pos (Nat.le_trans hr h)]
  · split
    · exact Nat.min_le_right _ _
    · exact roundedRank_mono hcount (unitsOfRank_mono h)

lemma quotientRank_zero (count : Nat) : quotientRank count 0 = 0 := by
  have hunits : unitsOfRank 0 = 0 := by decide
  rw [quotientRank, if_neg (by decide), hunits, rankOfRatio_zero]
  exact Nat.zero_min _

lemma divCount_ne_nan (hx : x ≠ nan) (count : Nat) : x.divCount count ≠ nan := by
  cases x with
  | nan => exact absurd rfl hx
  | signed s r hr =>
      rw [divCount]
      split
      · simp
      · simp [ofRatio, ofRank]

lemma key_divCount_signed (negative : Bool) {rank : Nat} (h : rank ≤ infinityRank) (count : Nat) :
    ((signed negative rank h).divCount count).key
      = withSign negative (quotientRank count rank) := by
  rw [divCount, quotientRank]
  split
  · next hinfinite => rw [if_pos (Nat.le_of_eq hinfinite.symm), key_signed, hinfinite]
  · next hfinite =>
      rw [if_neg fun hle => hfinite (Nat.le_antisymm h hle)]
      rfl

/-- **Quotients by a count are monotone.** -/
lemma key_divCount_mono (hx : x ≠ nan) (hy : y ≠ nan) {count : Nat} (hcount : 0 < count)
    (h : x.key ≤ y.key) : (x.divCount count).key ≤ (y.divCount count).key := by
  cases x with
  | nan => exact absurd rfl hx
  | signed s r hr =>
      cases y with
      | nan => exact absurd rfl hy
      | signed t u hu =>
          rw [key_divCount_signed, key_divCount_signed]
          exact withSign_mono (quotientRank_mono hcount) (quotientRank_zero count) h

end RadarConform.Number
