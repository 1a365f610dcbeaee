import Mathlib.Data.List.Induction
import RadarConform.Proofs.Table.Naming

/-!
# Spellings of revisions

A revision is read from the last word of a text, and what the reader does to that word is to take it
apart.  So the texts of a revision are described from the word outwards: two numerals with a point or
an underscore between them, perhaps a letter before them, and around the word anything that ends a
word before it and white space after it.

* `SpellsComponent` — the numerals of a component, of any length; their value is that of the component
  and never wraps (`component?_eq_some_iff`).
* `Spells`, `IsLastWord` — the words that spell a revision, and the word that counts.
* `parse_eq_ok_iff` — **a text is read as a revision exactly when its last word spells it**.
* `spellings`, `parse_of_mem_spellings` — the usual spellings, wherever they stand in a text.
-/

namespace RadarConform

namespace Text

variable {sep : Char → Bool}

/-- A text that is empty or ends with a separator, so that a piece starts after it. -/
def Outside (sep : Char → Bool) (before : List Char) : Prop :=
  ∀ c, before.getLast? = some c → sep c = true

instance (sep : Char → Bool) (before : List Char) : Decidable (Outside sep before) :=
  decidable_of_iff (before.getLast?.all sep = true) (by simp [Outside, Option.all_eq_true])

lemma outside_nil (sep : Char → Bool) : Outside sep [] := nofun

lemma Outside.of_append {before rest : List Char} (h : Outside sep (before ++ rest)) :
    Outside sep rest := by
  intro c hc
  exact h c (by simp [List.getLast?_append, hc])

lemma Outside.append {before rest : List Char} (h : Outside sep before) (h' : Outside sep rest) :
    Outside sep (before ++ rest) := by
  intro c hc
  rw [List.getLast?_append] at hc
  cases hlast : rest.getLast? with
  | none =>
      rw [hlast] at hc
      exact h c hc
  | some d =>
      rw [hlast] at hc
      cases hc
      exact h' c hlast

lemma getLast?_pieces_of_outside {before piece : List Char} (hbefore : Outside sep before)
    (hpiece : ∀ c ∈ piece, sep c = false) :
    (pieces sep (before ++ piece)).getLast? = some piece := by
  rcases List.eq_nil_or_concat before with rfl | ⟨l, c, rfl⟩
  · rw [List.nil_append, pieces_of_free hpiece]
    rfl
  · have hc : sep c = true := hbefore c (by simp)
    rw [List.concat_eq_append, List.append_assoc, List.singleton_append, pieces_append hc,
      pieces_of_free hpiece, List.getLast?_concat]

/-- Every text has a last piece.  By induction on the text from its end, which the last character
either ends or makes longer. -/
lemma exists_outside (sep : Char → Bool) (cs : List Char) :
    ∃ before piece, Outside sep before ∧ (∀ c ∈ piece, sep c = false) ∧ cs = before ++ piece := by
  induction cs using List.reverseRecOn with
  | nil => exact ⟨[], [], outside_nil sep, nofun, rfl⟩
  | append_singleton cs c ih =>
      cases hc : sep c with
      | true =>
          refine ⟨cs ++ [c], [], fun d hd => ?_, nofun, (List.append_nil _).symm⟩
          rw [List.getLast?_concat] at hd
          cases hd
          exact hc
      | false =>
          obtain ⟨before, piece, hbefore, hpiece, rfl⟩ := ih
          refine ⟨before, piece ++ [c], hbefore, ?_, List.append_assoc _ _ _⟩
          exact List.forall_mem_append.mpr ⟨hpiece, by simpa using hc⟩

/-- **The last piece** is what follows the last separator. -/
lemma getLast?_pieces_eq_some_iff {cs piece : List Char} :
    (pieces sep cs).getLast? = some piece ↔
      (∀ c ∈ piece, sep c = false) ∧ ∃ before, Outside sep before ∧ cs = before ++ piece := by
  constructor
  · intro h
    obtain ⟨before, piece', hbefore, hpiece, rfl⟩ := exists_outside sep cs
    rw [getLast?_pieces_of_outside hbefore hpiece] at h
    cases h
    exact ⟨hpiece, before, hbefore, rfl⟩
  · rintro ⟨hpiece, before, hbefore, rfl⟩
    exact getLast?_pieces_of_outside hbefore hpiece

end Text

namespace Version

open Text

/-! ## The word that counts -/

/-- The word after the last slash or white space of a text. -/
structure IsLastWord (text word : List Char) : Prop where
  free : ∀ c ∈ word, endsWord c = false
  exists_before : ∃ before, Outside endsWord before ∧ text = before ++ word

lemma lastWord_eq_iff {cs word : List Char} :
    lastWord cs = word ↔ IsLastWord (trim cs) word := by
  obtain ⟨last, hlast⟩ : ∃ last, (pieces endsWord (trim cs)).getLast? = some last :=
    ⟨_, List.getLast?_eq_some_getLast (pieces_ne_nil _ _)⟩
  have hiff : lastWord cs = word ↔ (pieces endsWord (trim cs)).getLast? = some word := by
    rw [lastWord, hlast, Option.getD_some, Option.some_inj]
  rw [hiff, getLast?_pieces_eq_some_iff]
  exact ⟨fun h => ⟨h.1, h.2⟩, fun h => ⟨h.free, h.exists_before⟩⟩

/-! ## Numerals -/

/-- A numeral of a component: decimal digits, perhaps after a plus sign, that have the component as
their value. -/
def SpellsComponent (cs : List Char) (n : UInt32) : Prop :=
  ∃ sign ds, (sign = [] ∨ sign = ['+']) ∧ ds ≠ [] ∧ (∀ c ∈ ds, c.isDigit = true) ∧
    cs = sign ++ ds ∧ Nat.ofDigitChars 10 ds 0 = n.toNat

lemma spellsComponent_digits (n : UInt32) : SpellsComponent (digits n) n := by
  refine ⟨[], digits n, .inl rfl, digits_ne_nil n, fun c => isDigit_of_mem_digits, rfl, ?_⟩
  rw [digits_eq]
  exact Nat.ofDigitChars_ten_toDigits

/-- The characters of a numeral. -/
lemma SpellsComponent.chars {cs : List Char} {n : UInt32} (h : SpellsComponent cs n) :
    cs ≠ [] ∧ ∀ c ∈ cs, c.isDigit = true ∨ c = '+' := by
  obtain ⟨sign, ds, rfl | rfl, hne, hdigits, rfl, -⟩ := h
  · exact ⟨hne, fun c hc => .inl (hdigits c hc)⟩
  · refine ⟨by simp, fun c hc => ?_⟩
    rcases List.mem_cons.mp hc with rfl | hc
    · exact .inr rfl
    · exact .inl (hdigits c hc)

lemma dropPlus_of_isDigit {ds : List Char} (h : ∀ c ∈ ds, c.isDigit = true) : dropPlus ds = ds := by
  rw [dropPlus.eq_def]
  split
  · exact absurd (h '+' List.mem_cons_self) (by decide)
  · rfl

lemma exists_sign_dropPlus (cs : List Char) :
    ∃ sign, (sign = [] ∨ sign = ['+']) ∧ cs = sign ++ dropPlus cs := by
  rw [dropPlus.eq_def]
  split
  · exact ⟨['+'], .inr rfl, rfl⟩
  · exact ⟨[], .inl rfl, rfl⟩

/-- The reader of a component: digits with a value below the bound, perhaps after a plus sign. -/
lemma component?_eq (cs : List Char) :
    component? cs =
      if dropPlus cs ≠ [] ∧ (dropPlus cs).all (·.isDigit) ∧
          Nat.ofDigitChars 10 (dropPlus cs) 0 < UInt32.size then
        some (.ofNat (Nat.ofDigitChars 10 (dropPlus cs) 0))
      else none := by
  rw [component?]
  exact if_congr Iff.rfl rfl rfl

/-- **A component is read from its numerals** and from nothing else; a value past the bound is
refused and not wrapped. -/
lemma component?_eq_some_iff {cs : List Char} {n : UInt32} :
    component? cs = some n ↔ SpellsComponent cs n := by
  rw [component?_eq, Option.ite_none_right_eq_some, Option.some_inj, List.all_eq_true]
  constructor
  · rintro ⟨⟨hne, hdigits, hlt⟩, rfl⟩
    obtain ⟨sign, hsign, hcs⟩ := exists_sign_dropPlus cs
    exact ⟨sign, dropPlus cs, hsign, hne, hdigits, hcs, (UInt32.toNat_ofNat_of_lt' hlt).symm⟩
  · rintro ⟨sign, ds, hsign, hne, hdigits, rfl, hvalue⟩
    have hdrop : dropPlus (sign ++ ds) = ds := by
      rcases hsign with rfl | rfl
      · exact dropPlus_of_isDigit hdigits
      · rfl
    rw [hdrop, hvalue]
    exact ⟨⟨hne, hdigits, n.toNat_lt⟩, UInt32.ofNat_toNat⟩

/-! ## Words -/

/-- A word that spells a revision: perhaps a letter, then the numerals of the two components with a
point or an underscore between them. -/
def Spells (word : List Char) (v : Version) : Prop :=
  ∃ letter major mark minor, (letter = [] ∨ letter = ['V'] ∨ letter = ['v']) ∧
    (mark = '.' ∨ mark = '_') ∧ SpellsComponent major v.major ∧ SpellsComponent minor v.minor ∧
      word = letter ++ major ++ mark :: minor

lemma exists_letter_dropLetter (word : List Char) :
    ∃ letter, (letter = [] ∨ letter = ['V'] ∨ letter = ['v']) ∧
      word = letter ++ dropLetter word := by
  rw [dropLetter.eq_def]
  split
  · exact ⟨['V'], .inr (.inl rfl), rfl⟩
  · exact ⟨['v'], .inr (.inr rfl), rfl⟩
  · exact ⟨[], .inl rfl, rfl⟩

/-- What starts as a numeral has no letter in front of it. -/
lemma dropLetter_append {cs rest : List Char} {n : UInt32} (h : SpellsComponent cs n) :
    dropLetter (cs ++ rest) = cs ++ rest := by
  obtain ⟨hne, hchars⟩ := h.chars
  obtain ⟨c, cs, rfl⟩ := List.exists_cons_of_ne_nil hne
  have hc := hchars c List.mem_cons_self
  rw [dropLetter.eq_def, List.cons_append]
  split
  · next heq =>
      cases heq
      exact absurd hc (by decide)
  · next heq =>
      cases heq
      exact absurd hc (by decide)
  · rfl

lemma dropLetter_letter {letter cs rest : List Char} {n : UInt32}
    (hletter : letter = [] ∨ letter = ['V'] ∨ letter = ['v']) (h : SpellsComponent cs n) :
    dropLetter (letter ++ cs ++ rest) = cs ++ rest := by
  rcases hletter with rfl | rfl | rfl
  · exact dropLetter_append h
  · rfl
  · rfl

/-- A numeral holds none of the two marks between the components. -/
lemma SpellsComponent.mark_free {cs : List Char} {n : UInt32} (h : SpellsComponent cs n) :
    ∀ c ∈ cs, (c == '.' || c == '_') = false := by
  intro c hc
  rcases h.chars.2 c hc with hdigit | rfl
  · rw [Bool.or_eq_false_iff, beq_eq_false_iff_ne, beq_eq_false_iff_ne]
    constructor
    · rintro rfl
      revert hdigit
      decide
    · rintro rfl
      revert hdigit
      decide
  · rfl

/-- No character of a word that spells a revision ends a word. -/
lemma Spells.free {word : List Char} {v : Version} (h : Spells word v) :
    word ≠ [] ∧ ∀ c ∈ word, endsWord c = false := by
  obtain ⟨letter, major, mark, minor, hletter, hmark, hmajor, hminor, rfl⟩ := h
  have hcomponent {cs : List Char} {n : UInt32} (h : SpellsComponent cs n) :
      ∀ c ∈ cs, endsWord c = false := by
    intro c hc
    rcases h.chars.2 c hc with hdigit | rfl
    · exact Decimal.of_isDigit (P := fun c => endsWord c = false) (by decide) hdigit
    · rfl
  have hletterFree : ∀ c ∈ letter, endsWord c = false := by
    rcases hletter with rfl | rfl | rfl
    · exact nofun
    · exact List.forall_mem_singleton.mpr rfl
    · exact List.forall_mem_singleton.mpr rfl
  have hmarkFree : endsWord mark = false := by
    rcases hmark with rfl | rfl <;> rfl
  refine ⟨by simp, ?_⟩
  rw [List.forall_mem_append, List.forall_mem_append, List.forall_mem_cons]
  exact ⟨⟨hletterFree, hcomponent hmajor⟩, hmarkFree, hcomponent hminor⟩

/-- **A text is read as a revision exactly when its last word spells it.** -/
lemma parse_eq_ok_iff {s : String} {v : Version} :
    parse s = .ok v ↔ ∃ word, IsLastWord (trim s.toList) word ∧ Spells word v := by
  have hword : IsLastWord (trim s.toList) (lastWord s.toList) := lastWord_eq_iff.mp rfl
  constructor
  · intro h
    rw [parse] at h
    split at h
    · cases h
    · next major minor hcut =>
        split at h
        · next majorNumber minorNumber hmajor hminor =>
            cases h
            obtain ⟨mark, hmark, hrest, -⟩ := cutOnce_eq_some_iff.mp hcut
            obtain ⟨letter, hletter, hlast⟩ := exists_letter_dropLetter (lastWord s.toList)
            refine ⟨_, hword, letter, major, mark, minor, hletter, ?_,
              component?_eq_some_iff.mp hmajor, component?_eq_some_iff.mp hminor, ?_⟩
            · simpa using hmark
            · rw [hlast, hrest, List.append_assoc]
        · cases h
  · rintro ⟨word, hlast, letter, major, mark, minor, hletter, hmark, hmajor, hminor, rfl⟩
    have hcut : cutOnce (fun c => c == '.' || c == '_') (major ++ mark :: minor)
        = some (major, minor) :=
      cutOnce_eq_some_iff.mpr ⟨mark, by simpa using hmark, rfl, hmajor.mark_free⟩
    simp only [parse, lastWord_eq_iff.mpr hlast, dropLetter_letter hletter hmajor, hcut,
      component?_eq_some_iff.mpr hmajor, component?_eq_some_iff.mpr hminor]

/-- A text that is refused is the one that the error names. -/
lemma input_of_parse {s : String} {e : VersionError} (h : parse s = .error e) : e = ⟨s⟩ := by
  rw [parse] at h
  split at h
  · cases h
    rfl
  · split at h
    · cases h
    · cases h
      rfl

/-! ## Usual spellings -/

/-- The spellings of a revision in files, in the names of tables and in messages. -/
def spellings (v : Version) : List String :=
  let major := toString v.major.toNat
  let minor := toString v.minor.toNat
  [major ++ "." ++ minor, major ++ "_" ++ minor, "V" ++ major ++ "_" ++ minor,
    "v" ++ major ++ "." ++ minor, "H5rad " ++ major ++ "." ++ minor,
    "ODIM_H5/V" ++ major ++ "_" ++ minor, v.text, v.tag]

/-- A word made of the digits of the components. -/
lemma spells_digits (v : Version) {letter : List Char} {mark : Char}
    (hletter : letter = [] ∨ letter = ['V'] ∨ letter = ['v']) (hmark : mark = '.' ∨ mark = '_') :
    Spells (letter ++ digits v.major ++ mark :: digits v.minor) v :=
  ⟨letter, _, mark, _, hletter, hmark, spellsComponent_digits _, spellsComponent_digits _, rfl⟩

/-- Each of the spellings is a word that spells the revision, or ends with one. -/
lemma exists_word_of_mem_spellings {v : Version} {s : String} (h : s ∈ v.spellings) :
    ∃ before word, Outside endsWord before ∧ Spells word v ∧ s.toList = before ++ word := by
  have hnone := outside_nil endsWord
  have hrad : Outside endsWord "H5rad ".toList := by decide
  have hodim : Outside endsWord "ODIM_H5/".toList := by decide
  simp only [spellings, List.mem_cons, List.not_mem_nil, or_false] at h
  rcases h with rfl | rfl | rfl | rfl | rfl | rfl | rfl | rfl
  · exact ⟨[], _, hnone, v.spells_digits (.inl rfl) (.inl rfl), by simp [digits]⟩
  · exact ⟨[], _, hnone, v.spells_digits (.inl rfl) (.inr rfl), by simp [digits]⟩
  · exact ⟨[], _, hnone, v.spells_digits (.inr (.inl rfl)) (.inr rfl), by simp [digits]⟩
  · exact ⟨[], _, hnone, v.spells_digits (.inr (.inr rfl)) (.inl rfl), by simp [digits]⟩
  · exact ⟨_, _, hrad, v.spells_digits (.inl rfl) (.inl rfl), by simp [digits]⟩
  · exact ⟨_, _, hodim, v.spells_digits (.inr (.inl rfl)) (.inr rfl), by simp [digits]⟩
  · exact ⟨[], _, hnone, v.spells_digits (.inl rfl) (.inl rfl), by simp [digits, text]⟩
  · exact ⟨[], _, hnone, v.spells_digits (.inr (.inl rfl)) (.inr rfl), by simp [digits, tag]⟩

/-- A word stays the last one of a text that goes on with white space only. -/
lemma isLastWord_trim {before word after : List Char} (hbefore : Outside endsWord before)
    (hne : word ≠ []) (hfree : ∀ c ∈ word, endsWord c = false) (hafter : Blank after) :
    IsLastWord (trim (before ++ word ++ after)) word := by
  have hblank : ∀ c ∈ word, isBlank c = false :=
    fun c hc => (Bool.or_eq_false_iff.mp (hfree c hc)).2
  obtain ⟨c, cs, rfl⟩ := List.exists_cons_of_ne_nil hne
  obtain ⟨hc, hcs⟩ := List.forall_mem_cons.mp hblank
  have htrim : trim (before ++ c :: cs ++ after) = trimStart before ++ c :: cs := by
    rw [List.append_assoc, List.cons_append, trim_append_cons hc, trimEnd_append hafter,
      trimEnd_eq_self fun d hd => hcs d (List.mem_of_getLast? hd)]
  obtain ⟨blank, -, heq⟩ := exists_blank_trimStart before
  exact ⟨hfree, trimStart before, Outside.of_append (heq ▸ hbefore), htrim⟩

/-- **Usual spellings.**  A spelling is read wherever it stands, as long as it starts a word and only
white space follows. -/
lemma parse_of_mem_spellings {v : Version} {s before after : String} (hs : s ∈ v.spellings)
    (hbefore : Outside endsWord before.toList) (hafter : Blank after.toList) :
    parse (before ++ s ++ after) = .ok v := by
  obtain ⟨front, word, hfront, hword, heq⟩ := exists_word_of_mem_spellings hs
  refine parse_eq_ok_iff.mpr ⟨word, ?_, hword⟩
  rw [String.toList_append, String.toList_append, heq, ← List.append_assoc]
  exact isLastWord_trim (hbefore.append hfront) hword.free.1 hword.free.2 hafter

/-- **Which texts are revisions.**  Every usual spelling of a revision is read as that revision, with
any text before it that ends with a slash or white space, and any white space after it.  A text is
read as a revision exactly when its last word, after the white space at the ends of the text is
dropped, is perhaps a letter V and then two numerals, with a point or an underscore between them, of
which the components are the values; so no value is wrapped.  Every other text is refused as it
stands. -/
theorem parse_spelled :
    (∀ (v : Version), ∀ s ∈ v.spellings, ∀ before after : String,
      Outside endsWord before.toList → Blank after.toList → parse (before ++ s ++ after) = .ok v) ∧
    (∀ s v, parse s = .ok v ↔ ∃ word, IsLastWord (trim s.toList) word ∧ Spells word v) ∧
    ∀ s, (¬∃ word v, IsLastWord (trim s.toList) word ∧ Spells word v) → parse s = .error ⟨s⟩ := by
  refine ⟨fun v s hs before after => parse_of_mem_spellings hs, fun s v => parse_eq_ok_iff,
    fun s hnone => ?_⟩
  cases hparse : parse s with
  | ok v =>
      obtain ⟨word, hword⟩ := parse_eq_ok_iff.mp hparse
      exact absurd ⟨word, v, hword⟩ hnone
  | error e => rw [input_of_parse hparse]

/-- The largest component, after another revision and between white space that is not ASCII; a
component with a sign and zeros, which no file writes; and the number after the largest one. -/
theorem parse_spelled_corners :
    parse "ODIM_H5/V2_1 or\u00A0v4294967295.0\u3000\n" = .ok ⟨4294967295, 0⟩ ∧
      parse "H5rad +007_00" = .ok ⟨7, 0⟩ ∧
      parse "4294967296.0" = .error ⟨"4294967296.0"⟩ := by
  obtain ⟨hspelling, hiff, hother⟩ := parse_spelled
  refine ⟨hspelling ⟨4294967295, 0⟩ "v4294967295.0" (by decide) "ODIM_H5/V2_1 or\u00A0" "\u3000\n"
    (by decide) (by decide), (hiff _ _).mpr ⟨"+007_00".toList, ?_, ?_⟩, hother _ ?_⟩
  · have hfree : "+007_00".toList.all (fun c => !endsWord c) = true := by decide
    exact ⟨fun c hc => by simpa using List.all_eq_true.mp hfree c hc, "H5rad ".toList,
      by decide, by decide⟩
  · have hmajor : ∀ c ∈ "007".toList, c.isDigit = true := List.all_eq_true.mp (by decide)
    have hminor : ∀ c ∈ "00".toList, c.isDigit = true := List.all_eq_true.mp (by decide)
    exact ⟨[], "+007".toList, '_', "00".toList, .inl rfl, .inr rfl,
      ⟨['+'], "007".toList, .inr rfl, by decide, hmajor, rfl, by decide⟩,
      ⟨[], "00".toList, .inl rfl, by decide, hminor, rfl, by decide⟩, by decide⟩
  · rintro ⟨word, v, hword⟩
    have hread : parse "4294967296.0" = .ok v := (hiff _ _).mpr ⟨word, hword⟩
    have hrefused : (parse "4294967296.0").toOption = none := by decide +kernel
    rw [hread] at hrefused
    cases hrefused

end Version

end RadarConform
