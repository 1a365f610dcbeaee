import RadarConform.Json.Token
import RadarConform.Json.Writer
import RadarConform.Proofs.Number.RoundTrip

/-!
# Literals that are written and read back

* `Literal.exists_part` — an escaped character is one part of a string and stands for the character.
* `Token.takeString_escaped`, `Literal.exists_parts` — **a string is read back from between its
  quotes**, whatever stands after them.
-/

namespace RadarConform.Json

/-! ## Characters -/

lemma hexDigit?_digitChar : ∀ n < 16, Literal.hexDigit? n.digitChar = some n := by decide

lemma digitChar_unescaped : ∀ n < 16, n.digitChar ≠ '"' ∧ n.digitChar ≠ '\\' := by decide

/-- A control has two hexadecimal digits, the first of which may be a zero. -/
lemma hexDigits_of_control {n : Nat} (h : n < 0x20) :
    (if n < 16 then ['0'] else []) ++ Nat.toDigits 16 n
      = [(n / 16).digitChar, (n % 16).digitChar] := by
  split
  · next hlow =>
      rw [Nat.toDigits_of_lt_base hlow, Nat.div_eq_of_lt hlow, Nat.mod_eq_of_lt hlow]
      rfl
  · next hhigh =>
      rw [Nat.toDigits_of_base_le (by decide) (Nat.le_of_not_lt hhigh),
        Nat.toDigits_of_lt_base (Nat.div_lt_of_lt_mul (by omega))]
      rfl

/-- The three forms of an escaped character: with a short escape, with its number, as it is. -/
lemma escaped_cases (c : Char) :
    (∃ e, escaped c = ['\\', e] ∧ e ≠ 'u' ∧ Literal.shortEscape? e = some c) ∨
      (c.toNat < 0x20 ∧ escaped c
        = ['\\', 'u', '0', '0', (c.toNat / 16).digitChar, (c.toNat % 16).digitChar]) ∨
      (escaped c = [c] ∧ 0x20 ≤ c.toNat ∧ c ≠ '"' ∧ c ≠ '\\') := by
  rw [escaped.eq_def]
  split
  · exact .inl ⟨'"', rfl, by decide, rfl⟩
  · exact .inl ⟨'\\', rfl, by decide, rfl⟩
  · exact .inl ⟨'b', rfl, by decide, rfl⟩
  · exact .inl ⟨'f', rfl, by decide, rfl⟩
  · exact .inl ⟨'n', rfl, by decide, rfl⟩
  · exact .inl ⟨'r', rfl, by decide, rfl⟩
  · exact .inl ⟨'t', rfl, by decide, rfl⟩
  · next hquote hslash _ _ _ _ _ =>
      split
      · next hcontrol =>
          refine .inr (.inl ⟨hcontrol, ?_⟩)
          rw [List.append_assoc, hexDigits_of_control hcontrol]
          rfl
      · next hplain => exact .inr (.inr ⟨rfl, Nat.le_of_not_lt hplain, hquote, hslash⟩)

/-- **An escaped character is one part of a string**, and stands for the character. -/
lemma Literal.exists_part (c : Char) :
    ∃ p, (∀ rest, parts? (escaped c ++ rest) = (parts? rest).map (p :: ·)) ∧
      ∀ ps, characters? (p :: ps) = (characters? ps).map (c :: ·) := by
  rcases escaped_cases c with ⟨e, heq, hne, hshort⟩ | ⟨hcontrol, heq⟩ | ⟨heq, hlow, -, hslash⟩
  · refine ⟨.char c, fun rest => ?_, fun ps => by rw [characters?]⟩
    rw [heq, List.cons_append, List.singleton_append, parts?, hshort]
    · cases parts? rest <;> rfl
    · exact fun _ _ _ _ _ heq' _ => hne heq'
  · refine ⟨.unit c.toNat, fun rest => ?_, fun ps => ?_⟩
    · have hword : hexWord? '0' '0' (c.toNat / 16).digitChar (c.toNat % 16).digitChar
          = some c.toNat := by
        rw [hexWord?, hexDigit?_digitChar _ (by omega), hexDigit?_digitChar _ (by omega)]
        simp [hexDigit?]
        omega
      simp only [heq, List.cons_append, List.nil_append, parts?, hword]
      cases parts? rest <;> rfl
    · rw [characters?.eq_def]
      simp only [if_pos (Or.inl (show c.toNat < 0xD800 by omega)), Char.ofNat_toNat]
  · refine ⟨.char c, fun rest => ?_, fun ps => by rw [characters?]⟩
    rw [heq, List.singleton_append, parts?, if_neg (by simp [hslash]; omega)]
    · cases parts? rest <;> rfl
    · exact fun _ _ _ _ _ heq' _ => hslash heq'
    · exact fun _ _ heq' _ => hslash heq'

/-- An escaped text is read as the text. -/
lemma Literal.exists_parts (cs : List Char) :
    ∃ ps, parts? (cs.flatMap escaped) = some ps ∧ characters? ps = some cs := by
  induction cs with
  | nil => exact ⟨[], rfl, rfl⟩
  | cons c cs ih =>
      obtain ⟨p, hp, hchar⟩ := exists_part c
      obtain ⟨ps, hps, hchars⟩ := ih
      refine ⟨p :: ps, ?_, ?_⟩
      · rw [List.flatMap_cons, hp, hps, Option.map_some]
      · rw [hchar, hchars, Option.map_some]

/-! ## Between quotes -/

lemma Token.takeString_plain {c : Char} (hquote : c ≠ '"') (hslash : c ≠ '\\') (rest : List Char) :
    takeString (c :: rest) = (takeString rest).map fun (body, after) => (c :: body, after) := by
  rw [takeString]
  · exact hquote
  · exact fun _ _ heq _ => hslash heq

/-- An escaped character does not end a string. -/
lemma Token.takeString_escaped (c : Char) (rest : List Char) :
    takeString (escaped c ++ rest)
      = (takeString rest).map fun (body, after) => (escaped c ++ body, after) := by
  rcases escaped_cases c with ⟨e, heq, -, -⟩ | ⟨hcontrol, heq⟩ | ⟨heq, -, hquote, hslash⟩
  · simp only [heq, List.cons_append, List.nil_append, takeString]
  · obtain ⟨hquote, hslash⟩ := digitChar_unescaped (c.toNat / 16) (by omega)
    obtain ⟨hquote', hslash'⟩ := digitChar_unescaped (c.toNat % 16) (by omega)
    have hzero := takeString_plain (c := '0') (by decide) (by decide)
    simp only [heq, List.cons_append, List.nil_append, takeString, hzero,
      takeString_plain hquote hslash, takeString_plain hquote' hslash', Option.map_map]
    rfl
  · simp only [heq, List.singleton_append, takeString_plain hquote hslash]

/-- **A string is read back from between its quotes**, whatever stands after them. -/
lemma Token.takeString_text (cs rest : List Char) :
    takeString (cs.flatMap escaped ++ '"' :: rest) = some (cs.flatMap escaped, rest) := by
  induction cs with
  | nil => rw [List.flatMap_nil, List.nil_append, takeString]
  | cons c cs ih => rw [List.flatMap_cons, List.append_assoc, takeString_escaped, ih, Option.map_some]

end RadarConform.Json
