import RadarConform.Json.Token
import RadarConform.Json.Writer
import RadarConform.Proofs.Number.RoundTrip

/-!
# Numbers that are written are numerals

* `Numeral.IsWhole` — digits without needless zeros at their start, as every natural number has
  them.
* `Numeral.Written` — a sign, digits, and places or an exponent after them; `Written.exists_ofChars?`
  says that such a text is read as a numeral.
* `Numeral.written_int` — an integer is written as a numeral.
* `Numeral.written_realText` — **a finite number is written as a numeral**, whichever of its forms is
  the one: whole, with places, or with an exponent.

Which number such a numeral is read as is another matter, for reading rounds twice.
-/

namespace RadarConform.Json.Numeral

open Decimal (isDigit)

/-! ## Whole parts -/

/-- Digits that may stand before the point. -/
structure IsWhole (ds : List Char) : Prop where
  ne_nil : ds ≠ []
  digits : ds.all isDigit = true
  leading : ds.head? = some '0' → ds = ['0']

lemma head?_append {ds rest : List Char} (h : ds ≠ []) : (ds ++ rest).head? = ds.head? := by
  obtain ⟨c, cs, rfl⟩ := List.exists_cons_of_ne_nil h
  rfl

lemma head?_toDigits_ne {n : Nat} (h : 0 < n) : (Nat.toDigits 10 n).head? ≠ some '0' := by
  induction n using Nat.strongRecOn with
  | ind n ih =>
      by_cases hlow : n < 10
      · have hdigit : ∀ n < 10, 0 < n → [n.digitChar].head? ≠ some '0' := by decide
        rw [Nat.toDigits_of_lt_base hlow]
        exact hdigit n hlow h
      · have hdiv : 0 < n / 10 := Nat.div_pos (Nat.le_of_not_lt hlow) (by decide)
        rw [Nat.toDigits_of_base_le (by decide) (Nat.le_of_not_lt hlow),
          head?_append Nat.toDigits_ne_nil]
        exact ih (n / 10) (by omega) hdiv

lemma isWhole_toDigits (n : Nat) : IsWhole (Nat.toDigits 10 n) where
  ne_nil := Nat.toDigits_ne_nil
  digits := Decimal.all_isDigit_digitChars ⟨n, 0⟩
  leading h := by
    rcases Nat.eq_zero_or_pos n with rfl | hpos
    · exact Nat.toDigits_zero 10
    · exact absurd h (head?_toDigits_ne hpos)

/-- Digits that do not start with a zero may be followed by any others. -/
lemma isWhole_append {ds fs : List Char} (hne : ds ≠ []) (hds : ds.all isDigit = true)
    (hfs : fs.all isDigit = true) (hleading : ds.head? ≠ some '0') : IsWhole (ds ++ fs) where
  ne_nil := by simp [hne]
  digits := by rw [List.all_append, hds, hfs, Bool.and_self]
  leading h := by
    rw [head?_append hne] at h
    exact absurd h hleading

variable {ds fs rest : List Char}

lemma IsWhole.exists_cons (h : IsWhole ds) : ∃ c cs, ds = c :: cs ∧ isDigit c = true := by
  obtain ⟨c, cs, rfl⟩ := List.exists_cons_of_ne_nil h.ne_nil
  exact ⟨c, cs, rfl, List.all_eq_true.mp h.digits c List.mem_cons_self⟩

/-! ## Reading the forms -/

/-- A text with a minus sign in front of it, or without one. -/
def withSign (negative : Bool) (cs : List Char) : List Char := if negative then '-' :: cs else cs

/-- What may stand after the digits before the point: nothing, places with an exponent that may be
missing, or an exponent. -/
inductive Places : List Char → Option (List Char × Int) → Prop
  | whole : Places [] none
  | fraction {fs rest : List Char} {e : Int} : fs ≠ [] → fs.all isDigit = true →
      rest.head?.all (fun c => !isDigit c) = true → Decimal.exponentOf? rest = some e →
      Places ('.' :: (fs ++ rest)) (some (fs, e))
  | exponent {cs : List Char} {e : Int} : Decimal.exponentOf? ('e' :: cs) = some e →
      Places ('e' :: cs) (some ([], e))

lemma Places.of_digits (hne : fs ≠ []) (hfs : fs.all isDigit = true) :
    Places ('.' :: fs) (some (fs, 0)) := by
  rw [← List.append_nil ('.' :: fs)]
  exact .fraction hne hfs rfl rfl

/-- A numeral without a sign. -/
def Unsigned (cs : List Char) : Prop :=
  ∃ ds rest places, cs = ds ++ rest ∧ IsWhole ds ∧ Places rest places

lemma ofChars?_withSign (h : IsWhole ds) {places : Option (List Char × Int)}
    (hplaces : Places rest places) (negative : Bool) :
    ofChars? (withSign negative (ds ++ rest)) = some ⟨negative, ds, places⟩ := by
  have hrest : rest.head?.all (fun c => !isDigit c) = true := by
    cases hplaces with
    | whole | fraction | exponent => rfl
  obtain ⟨htake, hdrop⟩ := Decimal.takeWhile_isDigit h.digits rest hrest
  have hleading : ¬ (ds = [] ∨ ds.head? = some '0' ∧ ds ≠ ['0']) := by
    rintro (hnil | ⟨hzero, hne⟩)
    · exact h.ne_nil hnil
    · exact hne (h.leading hzero)
  unfold ofChars?
  split
  next sign cs heq =>
    have hsign : (sign, cs) = (negative, ds ++ rest) := by
      rw [← heq]
      cases negative with
      | true => rfl
      | false =>
          obtain ⟨c, cs', rfl, hc⟩ := h.exists_cons
          have hminus : c ≠ '-' := by
            rintro rfl
            cases hc
          simp [withSign, hminus]
    cases hsign
    rw [htake, hdrop, if_neg hleading]
    cases hplaces with
    | whole => rfl
    | fraction hne hfs hend he =>
        obtain ⟨hftake, hfdrop⟩ := Decimal.takeWhile_isDigit hfs _ hend
        simp only [hftake, hfdrop, if_neg hne, he]
        rfl
    | exponent he =>
        simp only [he]
        rfl

/-- A numeral as it is written. -/
def Written (cs : List Char) : Prop := ∃ negative ds, Unsigned ds ∧ cs = withSign negative ds

/-- **A sign, digits and what may stand after them are a numeral.** -/
lemma Written.exists_ofChars? {cs : List Char} (h : Written cs) :
    ∃ numeral, ofChars? cs = some numeral := by
  obtain ⟨negative, _, ⟨ds, rest, places, rfl, hwhole, hplaces⟩, rfl⟩ := h
  exact ⟨_, ofChars?_withSign hwhole hplaces negative⟩

lemma isNumeric_eq (c : Char) : Token.isNumeric c = Number.isNumeralChar c := by
  simp only [Token.isNumeric, Number.isNumeralChar, List.contains_cons, List.contains_nil,
    Bool.or_false, Bool.or_assoc]
  ac_rfl

/-- The characters of a numeral as it is written. -/
lemma Written.isNumeric {cs : List Char} (h : Written cs) : ∀ c ∈ cs, Token.isNumeric c = true := by
  obtain ⟨negative, _, ⟨ds, rest, places, rfl, hwhole, hplaces⟩, rfl⟩ := h
  have hrest : ∀ c ∈ rest, Token.isNumeric c = true := by
    cases hplaces with
    | whole => exact List.forall_mem_nil _
    | fraction _ hfs _ he =>
        refine List.forall_mem_cons.mpr ⟨rfl, List.forall_mem_append.mpr ⟨?_, ?_⟩⟩
        · intro c hc
          rw [isNumeric_eq]
          exact Number.numeralChar_of_all_isDigit hfs c hc
        · intro c hc
          rw [isNumeric_eq]
          exact (Number.exponent_chars he).1 c hc
    | exponent he =>
        intro c hc
        rw [isNumeric_eq]
        exact (Number.exponent_chars he).1 c hc
  have hwhole' : ∀ c ∈ ds, Token.isNumeric c = true := by
    intro c hc
    rw [isNumeric_eq]
    exact Number.numeralChar_of_all_isDigit hwhole.digits c hc
  have hunsigned := List.forall_mem_append.mpr ⟨hwhole', hrest⟩
  cases negative with
  | true => exact List.forall_mem_cons.mpr ⟨rfl, hunsigned⟩
  | false => exact hunsigned

/-- A numeral starts with a digit or a minus sign. -/
lemma Written.exists_cons {cs : List Char} (h : Written cs) :
    ∃ c rest, cs = c :: rest ∧ (isDigit c = true ∨ c = '-') := by
  obtain ⟨negative, _, ⟨ds, rest, places, rfl, hwhole, -⟩, rfl⟩ := h
  obtain ⟨c, cs, rfl, hc⟩ := hwhole.exists_cons
  cases negative with
  | true => exact ⟨_, _, rfl, .inr rfl⟩
  | false => exact ⟨_, _, rfl, .inl hc⟩

/-! ## Integers -/

lemma toList_toString_int (n : Int) :
    (toString n).toList = withSign (decide (n < 0)) (Nat.toDigits 10 n.natAbs) := by
  cases n with
  | ofNat m =>
      rw [← Nat.toList_repr, ← Nat.toString_eq_repr]
      rfl
  | negSucc m =>
      have htext : toString (Int.negSucc m) = "-" ++ toString (m + 1) := rfl
      have hnegative : Int.negSucc m < 0 := Int.negSucc_lt_zero m
      rw [htext, String.toList_append, Nat.toString_eq_repr, Nat.toList_repr, decide_eq_true hnegative]
      rfl

/-- **An integer is written as a numeral.** -/
lemma written_int (n : Int) : Written (toString n).toList := by
  have hdigits : Unsigned (Nat.toDigits 10 n.natAbs) :=
    ⟨_, [], none, (List.append_nil _).symm, isWhole_toDigits _, .whole⟩
  exact ⟨_, _, hdigits, toList_toString_int n⟩

/-! ## Real numbers -/

/-- An exponent is read back, with a plus sign in front of it or without. -/
lemma exponentOf?_int {e : Int} {plus : List Char} (hplus : plus = ['+'] ∧ 0 ≤ e ∨ plus = []) :
    Decimal.exponentOf? ('e' :: (plus ++ (toString e).toList)) = some e := by
  obtain ⟨c, cs, hcons, hc⟩ := (isWhole_toDigits e.natAbs).exists_cons
  have hsign : Decimal.takeSign (plus ++ (toString e).toList)
      = (decide (e < 0), Nat.toDigits 10 e.natAbs) := by
    rw [toList_toString_int]
    rcases hplus with ⟨rfl, he⟩ | rfl
    · simp [withSign, Decimal.takeSign, Int.not_lt.mpr he]
    · rw [hcons, List.nil_append]
      exact Number.takeSign_of_isDigit hc cs _
  have hvalue : Decimal.valueOf (Nat.toDigits 10 e.natAbs) = e.natAbs :=
    Decimal.valueOf_digitChars ⟨e.natAbs, 0⟩
  have hdigits : Nat.toDigits 10 e.natAbs ≠ [] ∧ (Nat.toDigits 10 e.natAbs).all isDigit = true :=
    ⟨(isWhole_toDigits _).ne_nil, (isWhole_toDigits _).digits⟩
  simp only [Decimal.exponentOf?, hsign, true_or, if_true, if_pos hdigits, hvalue]
  congr 1
  by_cases he : e < 0
  · simp only [he, decide_true, if_true]
    omega
  · simp only [he, decide_false, Bool.false_eq_true, if_false]
    omega

section Forms

variable {d : Decimal}

/-- The digits of a positive decimal do not start with a zero. -/
lemma head?_digitChars_ne (h : d.digits ≠ 0) : d.digitChars.head? ≠ some '0' :=
  head?_toDigits_ne (Nat.pos_of_ne_zero h)

/-- A whole number, with a zero after the point. -/
lemma unsigned_of_whole (he : 0 ≤ d.exponent) (hzero : d.digits = 0 → d.exponent = 0) :
    Unsigned (d.positional ++ ['.', '0']) := by
  refine ⟨d.positional, _, _, rfl, ?_, .of_digits (List.cons_ne_nil '0' []) rfl⟩
  simp only [Decimal.positional, if_pos he]
  by_cases hdigits : d.digits = 0
  · rw [hzero hdigits, Int.toNat_zero, List.replicate_zero, List.append_nil]
    exact isWhole_toDigits d.digits
  · exact isWhole_append d.digitChars_ne_nil d.all_isDigit_digitChars (Decimal.all_isDigit_zeros _)
      (head?_digitChars_ne hdigits)

/-- A number with places. -/
lemma unsigned_of_places (he : ¬ 0 ≤ d.exponent) (hpos : d.digits ≠ 0) :
    Unsigned d.positional := by
  have hall := d.all_isDigit_digitChars
  simp only [Decimal.positional, if_neg he]
  split
  · next hlt =>
      have hsplit := List.take_append_drop (d.digitChars.length - (-d.exponent).toNat) d.digitChars
      rw [← hsplit, List.all_append, Bool.and_eq_true] at hall
      have hne : d.digitChars.take (d.digitChars.length - (-d.exponent).toNat) ≠ [] :=
        List.ne_nil_of_length_pos (by rw [List.length_take]; omega)
      have hdrop : d.digitChars.drop (d.digitChars.length - (-d.exponent).toNat) ≠ [] :=
        List.ne_nil_of_length_pos (by rw [List.length_drop]; omega)
      refine ⟨_, _, _, rfl, ⟨hne, hall.1, fun hzero => ?_⟩, .of_digits hdrop hall.2⟩
      rw [← head?_append hne, hsplit] at hzero
      exact absurd hzero (head?_digitChars_ne hpos)
  · refine ⟨['0'], _, _, rfl, ⟨List.cons_ne_nil _ _, rfl, fun _ => rfl⟩, .of_digits ?_ ?_⟩
    · simp [d.digitChars_ne_nil]
    · rw [List.all_append, Decimal.all_isDigit_zeros, hall, Bool.and_self]

/-- A single digit before what may stand after it. -/
lemma unsigned_of_first {first : Char} (hfirst : isDigit first = true) (hne : first ≠ '0')
    {places : Option (List Char × Int)} (hplaces : Places rest places) :
    Unsigned (first :: rest) := by
  refine ⟨[first], rest, places, rfl, ⟨List.cons_ne_nil _ _, by simpa using hfirst, ?_⟩, hplaces⟩
  intro hzero
  cases hzero
  exact absurd rfl hne

/-- A number with an exponent: its first digit, and the others, if there are others, after a
point. -/
lemma unsigned_of_exponent (hpos : d.digits ≠ 0) {cs : List Char} {e : Int}
    (hcs : Decimal.exponentOf? ('e' :: cs) = some e) :
    Unsigned (match d.digitChars with
      | first :: second :: others => first :: '.' :: second :: others ++ 'e' :: cs
      | _ => d.digitChars ++ 'e' :: cs) := by
  have hall := d.all_isDigit_digitChars
  have hleading := head?_digitChars_ne hpos
  obtain ⟨first, others, hds⟩ := List.exists_cons_of_ne_nil d.digitChars_ne_nil
  rw [hds, List.all_cons, Bool.and_eq_true] at hall
  have hfirst : first ≠ '0' := by
    rintro rfl
    exact hleading (by rw [hds]; rfl)
  rw [hds]
  cases others with
  | nil => exact unsigned_of_first hall.1 hfirst (.exponent hcs)
  | cons second others =>
      exact unsigned_of_first hall.1 hfirst
        (.fraction (List.cons_ne_nil second others) hall.2 rfl hcs)

end Forms

/-- **The digits of a decimal are those of a numeral**, whichever form they take. -/
lemma unsigned_realDigits (d : Decimal) (hzero : d.digits = 0 → d.exponent = 0) :
    Unsigned (realDigits ['+'] d) := by
  have hpos : ¬ (0 ≤ d.exponent ∧ (d.digitChars.length : Int) + d.exponent ≤ 16) →
      d.digits ≠ 0 := by
    intro hlarge hdigits
    have hone : d.digitChars.length = 1 := by
      rw [Decimal.digitChars, hdigits]
      rfl
    have := hzero hdigits
    omega
  simp only [realDigits]
  split
  · next hwhole => exact unsigned_of_whole hwhole.1 hzero
  · next hlarge =>
      split
      · next hplaces => exact unsigned_of_places (by omega) (hpos hlarge)
      · refine unsigned_of_exponent (hpos hlarge) (exponentOf?_int ?_)
        split
        · next hpoint => exact .inl ⟨rfl, by omega⟩
        · exact .inr rfl

/-- **A finite number is written as a numeral.** -/
lemma written_realText {x : Number} (h : x.isFinite = true) : Written (realText x).toList := by
  cases x with
  | nan => cases h
  | signed negative rank bounded =>
      have hrank : rank < Number.infinityRank := of_decide_eq_true h
      have hzero : (Number.shortest (· % 2 == 1) rank).digits = 0 →
          (Number.shortest (· % 2 == 1) rank).exponent = 0 := by
        intro hdigits
        have hread := Number.rank_shortest (· % 2 == 1) hrank
        rw [Decimal.rank, if_pos hdigits] at hread
        rw [Number.shortest, if_pos hread.symm]
      have htext : (realText (.signed negative rank bounded)).toList
          = withSign negative (realDigits ['+'] (Number.shortest (· % 2 == 1) rank)) := by
        rw [realText, realWith, if_neg (Nat.ne_of_lt hrank), String.toList_ofList]
        rfl
      exact ⟨negative, _, unsigned_realDigits _ hzero, htext⟩

end RadarConform.Json.Numeral
