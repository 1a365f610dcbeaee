import RadarConform.Proofs.Number.Rank
import RadarConform.Proofs.Number.Numeral
import RadarConform.Proofs.Text.Pieces

/-!
# Numbers read back from their text

* `Decimal.exists_ofText?_positional` — positional notation is read as a decimal of the same rank.
* `Number.ofText?_text` — **the text of a finite number is read as that number**, its sign included,
  so that negative zero comes back as negative zero.
-/

namespace RadarConform

namespace Decimal

/-! ## Digits -/

lemma valueOf_eq (ds : List Char) : valueOf ds = Nat.ofDigitChars 10 ds 0 := rfl

lemma valueOf_digitChars (d : Decimal) : valueOf d.digitChars = d.digits := by
  rw [valueOf_eq, digitChars, Nat.ofDigitChars_ten_toDigits]

lemma valueOf_append_zeros (ds : List Char) (n : Nat) :
    valueOf (ds ++ List.replicate n '0') = valueOf ds * 10 ^ n := by
  rw [valueOf_eq, Nat.ofDigitChars_append, Nat.ofDigitChars_replicate_zero, valueOf_eq,
    Nat.mul_comm]

lemma valueOf_zeros_append (ds : List Char) (n : Nat) :
    valueOf (List.replicate n '0' ++ ds) = valueOf ds := by
  rw [valueOf_eq, Nat.ofDigitChars_append, Nat.ofDigitChars_replicate_zero, valueOf_eq,
    Nat.mul_zero]

lemma all_isDigit_digitChars (d : Decimal) : d.digitChars.all isDigit = true := by
  refine List.all_eq_true.mpr fun c hc => ?_
  have hdigit := Nat.isDigit_of_mem_toDigits (by decide) (by decide) hc
  simp only [Char.isDigit, Bool.and_eq_true, decide_eq_true_eq] at hdigit
  exact isDigit_iff.mpr hdigit

lemma all_isDigit_zeros (n : Nat) : (List.replicate n '0').all isDigit = true := by
  simp [isDigit]

lemma digitChars_ne_nil (d : Decimal) : d.digitChars ≠ [] := Nat.toDigits_ne_nil

/-- Digits are taken up to the first character that is none. -/
lemma takeWhile_isDigit {ds : List Char} (h : ds.all isDigit = true) (rest : List Char)
    (hrest : rest.head?.all (fun c => !isDigit c) = true) :
    (ds ++ rest).takeWhile isDigit = ds ∧ (ds ++ rest).dropWhile isDigit = rest := by
  refine Text.cut_run (List.all_eq_true.mp h) fun c hc => ?_
  rw [hc] at hrest
  exact Bool.not_eq_true' _ |>.mp hrest

/-! ## Positional notation -/

/-- Digits alone are a whole number. -/
lemma ofText?_digits {ds : List Char} (hne : ds ≠ []) (h : ds.all isDigit = true) :
    ofText? ds = some ⟨valueOf ds, 0⟩ := by
  obtain ⟨htake, hdrop⟩ := takeWhile_isDigit h [] rfl
  rw [List.append_nil] at htake hdrop
  simp [ofText?, htake, hdrop, takeFraction, exponentOf?, hne]

/-- Digits, a point and digits are a number with as many places as digits after the point. -/
lemma ofText?_point {ds fs : List Char} (hne : ds ≠ []) (h : ds.all isDigit = true)
    (hfs : fs.all isDigit = true) :
    ofText? (ds ++ '.' :: fs) = some ⟨valueOf (ds ++ fs), -fs.length⟩ := by
  obtain ⟨htake, hdrop⟩ := takeWhile_isDigit h ('.' :: fs) rfl
  obtain ⟨hftake, hfdrop⟩ := takeWhile_isDigit hfs [] rfl
  rw [List.append_nil] at hftake hfdrop
  simp [ofText?, htake, hdrop, takeFraction, hftake, hfdrop, exponentOf?, hne]

/-- **Positional notation** is read as a decimal of the same rank.  The decimal itself comes back
where there is a point; a whole number comes back with its zeros among the digits. -/
lemma exists_ofText?_positional (d : Decimal) :
    ∃ d', ofText? d.positional = some d' ∧ d'.rank = d.rank := by
  simp only [positional]
  split
  · next he =>
      refine ⟨_, ofText?_digits (by simp [digitChars_ne_nil]) ?_, ?_⟩
      · rw [List.all_append, all_isDigit_digitChars, all_isDigit_zeros]
        rfl
      · rw [valueOf_append_zeros, valueOf_digitChars, rank_shift, Int.zero_add,
          Int.toNat_of_nonneg he]
  · next he =>
      have hplaces : -(((-d.exponent).toNat : Nat) : Int) = d.exponent := by omega
      refine ⟨d, ?_, rfl⟩
      have hall := all_isDigit_digitChars d
      split
      · next hlt =>
          have htake := List.take_append_drop (d.digitChars.length - (-d.exponent).toNat)
            d.digitChars
          have hsplit := hall
          rw [← htake, List.all_append, Bool.and_eq_true] at hsplit
          rw [ofText?_point (List.ne_nil_of_length_pos (by rw [List.length_take]; omega))
            hsplit.1 hsplit.2, htake, valueOf_digitChars, List.length_drop,
            Nat.sub_sub_self (Nat.le_of_lt hlt), hplaces]
      · next hle =>
          have hzeros := all_isDigit_zeros ((-d.exponent).toNat - d.digitChars.length)
          refine (ofText?_point (List.cons_ne_nil '0' []) rfl ?_).trans ?_
          · rw [List.all_append, hzeros, hall]
            rfl
          · rw [show ['0'] = List.replicate 1 '0' from rfl, valueOf_zeros_append,
              valueOf_zeros_append, valueOf_digitChars, List.length_append, List.length_replicate,
              Nat.sub_add_cancel (Nat.le_of_not_lt hle), hplaces]

/-- Positional notation starts with a digit. -/
lemma exists_cons_positional (d : Decimal) :
    ∃ c cs, d.positional = c :: cs ∧ isDigit c = true := by
  have hhead {l r : List Char} (hne : l ≠ []) (hl : l.all isDigit = true) :
      ∃ c cs, l ++ r = c :: cs ∧ isDigit c = true := by
    obtain ⟨c, cs, rfl⟩ := List.exists_cons_of_ne_nil hne
    exact ⟨c, cs ++ r, rfl, List.all_eq_true.mp hl c List.mem_cons_self⟩
  have hall := all_isDigit_digitChars d
  simp only [positional]
  split
  · exact hhead (digitChars_ne_nil d) hall
  · split
    · refine hhead (List.ne_nil_of_length_pos (by rw [List.length_take]; omega)) ?_
      exact List.all_eq_true.mpr fun c hc => List.all_eq_true.mp hall c (List.mem_of_mem_take hc)
    · exact ⟨_, _, rfl, rfl⟩

end Decimal

namespace Number

/-! ## Signs -/

lemma toLower_of_isDigit {c : Char} (h : Decimal.isDigit c = true) : c.toLower = c := by
  rw [Decimal.isDigit_iff] at h
  refine dif_neg ?_
  rintro ⟨hlow, -⟩
  have : 65 ≤ c.toNat := hlow
  omega

/-- What follows the sign is a decimal as soon as it starts with a digit. -/
lemma ofText?_of_isDigit {cs rest : List Char} {c : Char} {negative : Bool} {d : Decimal}
    (hsign : Decimal.takeSign cs = (negative, c :: rest)) (hc : Decimal.isDigit c = true)
    (hd : Decimal.ofText? (c :: rest) = some d) : ofText? cs = some (d.toNumber negative) := by
  have hi : c ≠ 'i' := by
    rintro rfl
    cases hc
  have hn : c ≠ 'n' := by
    rintro rfl
    cases hc
  simp [ofText?, hsign, lowerWord, toLower_of_isDigit hc, hi, hn, hd]

/-- The sign in front of a text that starts with a digit is read off. -/
lemma takeSign_of_isDigit {c : Char} (hc : Decimal.isDigit c = true) (rest : List Char)
    (negative : Bool) :
    Decimal.takeSign (if negative then '-' :: c :: rest else c :: rest) =
      (negative, c :: rest) := by
  have hminus : c ≠ '-' := by
    rintro rfl
    cases hc
  have hplus : c ≠ '+' := by
    rintro rfl
    cases hc
  cases negative with
  | true => rfl
  | false => simp [Decimal.takeSign, hminus, hplus]

/-- **The text of a finite number is read as that number.** -/
theorem ofText?_text {x : Number} (hfinite : x.isFinite = true) :
    ofText? x.text.toList = some x := by
  cases x with
  | nan => cases hfinite
  | signed negative rank bounded =>
      have hrank : rank < infinityRank := of_decide_eq_true hfinite
      obtain ⟨c, rest, hcons, hc⟩ := Decimal.exists_cons_positional (shortest (fun _ => true) rank)
      obtain ⟨d, hd, hsame⟩ := Decimal.exists_ofText?_positional (shortest (fun _ => true) rank)
      rw [rank_shortest _ hrank] at hsame
      rw [hcons] at hd
      simp only [text, if_neg (Nat.ne_of_lt hrank), hcons, String.toList_ofList]
      rw [ofText?_of_isDigit (takeSign_of_isDigit hc rest negative) hc hd]
      simp [Decimal.toNumber, ofRank, hsame, Nat.min_eq_left bounded]

end Number

end RadarConform
