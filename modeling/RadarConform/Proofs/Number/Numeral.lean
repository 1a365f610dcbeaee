import RadarConform.Number.Decimal
import RadarConform.Proofs.Text.Trim

/-!
# The characters of a numeral

Which texts are read as a finite number is a matter of the reader; what the grammars built on top
of it need to know is which characters such a text can hold and in which places.

* `Number.isNumeralChar` — digits, signs, the point and the letter of the exponent.
* `Number.numeralChar_of_ofText?` — **nothing else stands in a numeral**, so no white space, no
  comparator and no connective does.
* `Number.not_infix_of_ofText?` — the mark `+-` never starts inside a numeral: a plus sign stands at
  the start or after the letter of the exponent, and a digit or a point follows it.
-/

namespace RadarConform

namespace Decimal

/-! ## The parts of a decimal -/

lemma isDigit_iff {c : Char} : isDigit c = true ↔ 48 ≤ c.toNat ∧ c.toNat ≤ 57 := by
  simp only [isDigit, Bool.and_eq_true, decide_eq_true_eq]
  exact Iff.rfl

/-- What holds of the ten digits holds of every digit. -/
@[elab_as_elim]
lemma of_isDigit {P : Char → Prop} (h : ∀ n ≤ 57, 48 ≤ n → P (.ofNat n)) {c : Char}
    (hc : isDigit c = true) : P c := by
  obtain ⟨hlow, hhigh⟩ := isDigit_iff.mp hc
  rw [← Char.ofNat_toNat c]
  exact h c.toNat hhigh hlow

/-- The exponent part of a decimal. -/
lemma exists_exponent_parts {cs : List Char} {e : Int} (h : exponentOf? cs = some e) :
    cs = [] ∨ ∃ c sign ds, cs = c :: (sign ++ ds) ∧ (c = 'e' ∨ c = 'E') ∧
      (sign = [] ∨ sign = ['+'] ∨ sign = ['-']) ∧ ds ≠ [] ∧ ds.all isDigit = true := by
  cases cs with
  | nil => exact .inl rfl
  | cons c cs =>
      simp only [exponentOf?] at h
      split at h
      · next hc =>
          split at h
          · next hds =>
              refine .inr ⟨c, ?_⟩
              unfold takeSign at hds
              split at hds
              · exact ⟨['-'], _, rfl, hc, by simp, hds⟩
              · exact ⟨['+'], _, rfl, hc, by simp, hds⟩
              · exact ⟨[], _, rfl, hc, by simp, hds⟩
          · cases h
      · cases h

/-- A decimal is digits, a point and digits, and an exponent, of which the last two may be missing
and one digit or point is there. -/
lemma exists_parts {cs : List Char} {d : Decimal} (h : ofText? cs = some d) :
    ∃ whole point exponent e, cs = whole ++ point ++ exponent ∧ whole.all isDigit = true ∧
      (point = [] ∨ ∃ fraction, point = '.' :: fraction ∧ fraction.all isDigit = true) ∧
      whole ++ point ≠ [] ∧ exponentOf? exponent = some e := by
  simp only [ofText?] at h
  split at h
  · cases h
  · next hne =>
      obtain ⟨e, he, -⟩ := Option.map_eq_some_iff.mp h
      refine ⟨cs.takeWhile isDigit, ?_⟩
      have hsplit : cs.takeWhile isDigit ++ cs.dropWhile isDigit = cs :=
        List.takeWhile_append_dropWhile
      unfold takeFraction at he hne
      split at he
      · next rest hrest =>
          refine ⟨'.' :: rest.takeWhile isDigit, rest.dropWhile isDigit, e, ?_, List.all_takeWhile,
            .inr ⟨_, rfl, List.all_takeWhile⟩, by simp, he⟩
          rw [List.append_assoc, List.cons_append, List.takeWhile_append_dropWhile, ← hrest, hsplit]
      · next hrest =>
          refine ⟨[], cs.dropWhile isDigit, e, ?_, List.all_takeWhile, .inl rfl, ?_, he⟩
          · rw [List.append_nil, hsplit]
          · simp only [List.append_nil]
            intro hwhole
            rw [hwhole] at hne
            split at hne
            · exact hrest _ ‹_›
            · simp at hne

end Decimal

namespace Number

/-! ## Numerals of finite numbers -/

/-- A finite number is written as a decimal; the words are for numbers that are not finite. -/
lemma exists_decimal {cs : List Char} {x : Number} (h : ofText? cs = some x)
    (hfinite : x.isFinite = true) :
    ∃ d, Decimal.ofText? (Decimal.takeSign cs).2 = some d ∧
      x = d.toNumber (Decimal.takeSign cs).1 := by
  simp only [ofText?] at h
  split at h
  · cases h
    simp [infinity, isFinite] at hfinite
  · split at h
    · cases h
      simp [isFinite] at hfinite
    · obtain ⟨d, hd, hx⟩ := Option.map_eq_some_iff.mp h
      exact ⟨d, hd, hx.symm⟩

/-- The characters that numerals are made of. -/
def isNumeralChar (c : Char) : Bool := Decimal.isDigit c || ['+', '-', '.', 'e', 'E'].contains c

lemma numeralChar_of_isDigit {c : Char} (h : Decimal.isDigit c = true) :
    isNumeralChar c = true := by simp [isNumeralChar, h]

lemma numeralChar_of_all_isDigit {ds : List Char} (h : ds.all Decimal.isDigit = true) :
    ∀ c ∈ ds, isNumeralChar c = true :=
  fun c hc => numeralChar_of_isDigit (List.all_eq_true.mp h c hc)

lemma plus_notMem_of_all_isDigit {ds : List Char} (h : ds.all Decimal.isDigit = true) :
    '+' ∉ ds := by
  intro hc
  have := List.all_eq_true.mp h _ hc
  simp [Decimal.isDigit] at this

/-! ## The mark of a tolerance

A cut at `+-` finds the first occurrence, also one that starts with the last character of a numeral
and ends with the first of the mark.  So the statement is about a numeral with a plus after it. -/

/-- A text in which, and at whose end, no `+-` starts. -/
def Unsplit (cs : List Char) : Prop := ¬ ['+', '-'] <:+: cs ++ ['+']

lemma Unsplit.append {l r : List Char} (hl : '+' ∉ l) (hr : Unsplit r) : Unsplit (l ++ r) := by
  intro h
  induction l with
  | nil => exact hr h
  | cons c cs ih =>
      simp only [List.mem_cons, not_or] at hl
      rcases List.infix_cons_iff.mp h with ⟨rest, hprefix⟩ | hinfix
      · exact hl.1 (List.cons.inj hprefix).1
      · exact ih hl.2 hinfix

lemma Unsplit.append_right {l r : List Char} (hl : Unsplit l) (hr : '-' ∉ r) :
    Unsplit (l ++ r) := by
  intro h
  induction l with
  | nil =>
      have hmem : '-' ∈ [] ++ r ++ ['+'] := h.subset (by simp)
      simp [hr] at hmem
  | cons c cs ih =>
      have hcs : Unsplit cs := fun hi => hl (hi.trans (List.suffix_cons _ _).isInfix)
      rcases List.infix_cons_iff.mp h with ⟨rest, hprefix⟩ | hinfix
      · obtain ⟨rfl, htail⟩ := List.cons.inj hprefix
        cases cs with
        | nil =>
            have hmem : '-' ∈ r ++ ['+'] :=
              (show '-' :: rest = r ++ ['+'] from htail) ▸ List.mem_cons_self
            simp [hr] at hmem
        | cons d ds =>
            obtain ⟨rfl, -⟩ := List.cons.inj htail
            exact hl (List.infix_cons_iff.mpr (.inl ⟨ds ++ ['+'], rfl⟩))
      · exact ih hcs hinfix

lemma unsplit_nil : Unsplit [] := by simp [Unsplit, List.infix_cons_iff]

/-- After a plus sign comes something other than a minus sign. -/
lemma Unsplit.plus {c : Char} {cs : List Char} (hc : c ≠ '-') (h : Unsplit (c :: cs)) :
    Unsplit ('+' :: c :: cs) := by
  intro hinfix
  rcases List.infix_cons_iff.mp hinfix with ⟨rest, hprefix⟩ | hinfix
  · exact hc (List.cons.inj (List.cons.inj hprefix).2).1.symm
  · exact h hinfix

lemma unsplit_of_all_isDigit {ds : List Char} (h : ds.all Decimal.isDigit = true) :
    Unsplit ds := by
  simpa using unsplit_nil.append (plus_notMem_of_all_isDigit h)

lemma unsplit_of_signed_digits {sign ds : List Char}
    (hsign : sign = [] ∨ sign = ['+'] ∨ sign = ['-']) (hne : ds ≠ [])
    (hds : ds.all Decimal.isDigit = true) : Unsplit (sign ++ ds) := by
  have h := unsplit_of_all_isDigit hds
  rcases hsign with rfl | rfl | rfl
  · exact h
  · obtain ⟨d, rest, rfl⟩ := List.exists_cons_of_ne_nil hne
    refine Unsplit.plus ?_ h
    rintro rfl
    simp [Decimal.isDigit] at hds
  · exact h.append (by simp)

/-- The exponent part of a decimal keeps to the characters of numerals and holds no `+-`. -/
lemma exponent_chars {cs : List Char} {e : Int} (h : Decimal.exponentOf? cs = some e) :
    (∀ c ∈ cs, isNumeralChar c = true) ∧ Unsplit cs := by
  rcases Decimal.exists_exponent_parts h with rfl | ⟨c, sign, ds, rfl, hc, hsign, hne, hds⟩
  · exact ⟨by simp, unsplit_nil⟩
  · refine ⟨fun a ha => ?_, ?_⟩
    · rcases List.mem_cons.mp ha with rfl | ha
      · rcases hc with rfl | rfl <;> rfl
      · rcases List.mem_append.mp ha with ha | ha
        · rcases hsign with rfl | rfl | rfl <;> simp_all [isNumeralChar]
        · exact numeralChar_of_all_isDigit hds a ha
    · refine (unsplit_of_signed_digits hsign hne hds).append (l := [c]) ?_
      rcases hc with rfl | rfl <;> simp

/-- The digits and the point of a decimal. -/
lemma front_chars {whole point : List Char} (hwhole : whole.all Decimal.isDigit = true)
    (hpoint : point = [] ∨ ∃ fraction, point = '.' :: fraction ∧
      fraction.all Decimal.isDigit = true) :
    ∀ c ∈ whole ++ point, Decimal.isDigit c = true ∨ c = '.' := by
  intro c hc
  rcases List.mem_append.mp hc with hc | hc
  · exact .inl (List.all_eq_true.mp hwhole c hc)
  · rcases hpoint with rfl | ⟨fraction, rfl, hfraction⟩
    · cases hc
    · rcases List.mem_cons.mp hc with rfl | hc
      · exact .inr rfl
      · exact .inl (List.all_eq_true.mp hfraction c hc)

/-- A decimal without its sign starts with a digit or a point. -/
lemma decimal_chars {cs : List Char} {d : Decimal} (h : Decimal.ofText? cs = some d) :
    (∃ c rest, cs = c :: rest ∧ (Decimal.isDigit c = true ∨ c = '.')) ∧
      (∀ c ∈ cs, isNumeralChar c = true) ∧ Unsplit cs := by
  obtain ⟨whole, point, exponent, e, rfl, hwhole, hpoint, hne, hexponent⟩ :=
    Decimal.exists_parts h
  have hfront := front_chars hwhole hpoint
  obtain ⟨hexponentChars, hexponentUnsplit⟩ := exponent_chars hexponent
  refine ⟨?_, fun c hc => ?_, hexponentUnsplit.append fun hplus => ?_⟩
  · obtain ⟨c, rest, hcons⟩ := List.exists_cons_of_ne_nil hne
    exact ⟨c, rest ++ exponent, by rw [hcons]; rfl, hfront c (by rw [hcons]; simp)⟩
  · rcases List.mem_append.mp hc with hc | hc
    · rcases hfront c hc with hd | rfl
      · exact numeralChar_of_isDigit hd
      · rfl
    · exact hexponentChars c hc
  · rcases hfront _ hplus with hd | hd
    · simp [Decimal.isDigit] at hd
    · cases hd

/-- **The characters of a numeral.**  A text that is read as a finite number is not empty, starts
with a sign, a digit or a point, holds the characters of numerals only, and no `+-`. -/
lemma numeral_chars {cs : List Char} {x : Number} (h : ofText? cs = some x)
    (hfinite : x.isFinite = true) :
    (∃ c rest, cs = c :: rest ∧ (Decimal.isDigit c = true ∨ ['+', '-', '.'].contains c = true)) ∧
      (∀ c ∈ cs, isNumeralChar c = true) ∧ Unsplit cs := by
  obtain ⟨d, hd, -⟩ := exists_decimal h hfinite
  unfold Decimal.takeSign at hd
  split at hd
  · next rest =>
      obtain ⟨-, hchars, hunsplit⟩ := decimal_chars hd
      refine ⟨⟨_, _, rfl, .inr rfl⟩, fun c hc => ?_, hunsplit.append (l := ['-']) (by simp)⟩
      rcases List.mem_cons.mp hc with rfl | hc
      · rfl
      · exact hchars c hc
  · next rest =>
      obtain ⟨⟨c, rest', hcons, hc⟩, hchars, hunsplit⟩ := decimal_chars hd
      simp only at hcons hchars hunsplit
      subst hcons
      refine ⟨⟨_, _, rfl, .inr rfl⟩, fun a ha => ?_, hunsplit.plus ?_⟩
      · rcases List.mem_cons.mp ha with rfl | ha
        · rfl
        · exact hchars a ha
      · rintro rfl
        rcases hc with hc | hc
        · simp [Decimal.isDigit] at hc
        · cases hc
  · obtain ⟨⟨c, rest, hcons, hc⟩, hchars, hunsplit⟩ := decimal_chars hd
    refine ⟨⟨c, rest, hcons, ?_⟩, hchars, hunsplit⟩
    rcases hc with hc | rfl
    · exact .inl hc
    · exact .inr rfl

/-- No character of a numeral is white space. -/
lemma isBlank_of_isNumeralChar {c : Char} (h : isNumeralChar c = true) :
    Text.isBlank c = false := by
  simp only [isNumeralChar, Bool.or_eq_true, List.contains_iff_mem, List.mem_cons,
    List.not_mem_nil, or_false] at h
  rcases h with h | rfl | rfl | rfl | rfl | rfl
  · rw [Decimal.isDigit_iff] at h
    simp only [Text.isBlank, Bool.or_eq_false_iff, Bool.and_eq_false_iff, decide_eq_false_iff_not,
      beq_eq_false_iff_ne]
    omega
  all_goals decide

end Number

end RadarConform
