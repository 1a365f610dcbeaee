import RadarConform.Proofs.Text.Pieces
import RadarConform.Text.Quoted

/-!
# Texts on one line

A report puts every entry on a line of its own.  That works for entries without a line feed, and for
no others: lines that are written one under the other are read back as the same lines exactly when
none of them holds a line feed.

* `SingleLine` — a text without a line feed; `singleLine_quoted`: **quoting leaves none**.
* `ended` — some lines, each of them with the line feed that ends it.
* `pieces_ended` — lines without line feeds are read back.
* `length_pieces_ended_iff` — **others are read back as too many lines**.
-/

namespace RadarConform.Text

/-- A text without a line feed. -/
def SingleLine (s : String) : Prop := '\n' ∉ s.toList

instance (s : String) : Decidable (SingleLine s) := inferInstanceAs (Decidable (¬ _))

lemma singleLine_empty : SingleLine "" := nofun

lemma singleLine_append {s t : String} : SingleLine (s ++ t) ↔ SingleLine s ∧ SingleLine t := by
  simp [SingleLine]

lemma SingleLine.append {s t : String} (hs : SingleLine s) (ht : SingleLine t) :
    SingleLine (s ++ t) :=
  singleLine_append.mpr ⟨hs, ht⟩

lemma singleLine_joined {separator : String} {texts : List String} (hs : SingleLine separator)
    (h : ∀ text ∈ texts, SingleLine text) : SingleLine (joined separator texts) := by
  intro hmem
  rcases mem_joined hmem with hmem | ⟨text, htext, hmem⟩
  · exact hs hmem
  · exact h text htext hmem

/-! ## Numbers and quoted texts -/

lemma linefeed_ne_digitChar : ∀ n < 16, n.digitChar ≠ '\n' := by decide

lemma linefeed_notMem_toDigits {b : Nat} (hb : 1 < b) (hle : b ≤ 16) (n : Nat) :
    '\n' ∉ Nat.toDigits b n := by
  induction n using Nat.strongRecOn with
  | ind n ih =>
      by_cases hn : n < b
      · rw [Nat.toDigits_of_lt_base hn, List.mem_singleton]
        exact (linefeed_ne_digitChar n (by omega)).symm
      · have hpos : 0 < n := by omega
        have hmod : n % b < 16 := Nat.lt_of_lt_of_le (Nat.mod_lt n (by omega)) hle
        rw [Nat.toDigits_of_base_le hb (Nat.le_of_not_lt hn), List.mem_append, List.mem_singleton,
          not_or]
        exact ⟨ih (n / b) (Nat.div_lt_self hpos hb), (linefeed_ne_digitChar _ hmod).symm⟩

lemma singleLine_toString (n : Nat) : SingleLine (toString n) := by
  rw [SingleLine, Nat.toString_eq_repr, Nat.toList_repr]
  exact linefeed_notMem_toDigits (by decide) (by decide) n

lemma linefeed_notMem_escapedChar (mark c : Char) : '\n' ∉ escapedChar mark c := by
  fun_cases escapedChar mark c with
  | case1 | case2 | case3 | case4 => decide
  | case5 _ hfeed => simpa using Ne.symm hfeed
  | case6 _ hfeed => simpa using Ne.symm hfeed
  | case7 =>
      have hdigits := linefeed_notMem_toDigits (b := 16) (by decide) (by decide) c.toNat
      simpa [hexText] using hdigits

/-- **Quoting leaves no line feed.** -/
lemma singleLine_quoted (s : String) : SingleLine (quoted s) := by
  have hbody : '\n' ∉ s.toList.flatMap (escapedChar '"') := by
    rw [List.mem_flatMap]
    rintro ⟨c, -, hc⟩
    exact linefeed_notMem_escapedChar _ c hc
  rw [SingleLine, quoted, String.toList_ofList]
  simpa using hbody

/-! ## Lines one under the other -/

/-- Some lines, each of them with the line feed that ends it. -/
def ended (lines : List String) : String := String.join (lines.map (· ++ "\n"))

lemma toList_ended (lines : List String) :
    (ended lines).toList = lines.flatMap fun line => line.toList ++ ['\n'] := by
  rw [ended, String.toList_join, List.flatMap_map]
  simp

/-- Lines without line feeds are read back. -/
lemma pieces_ended {lines : List String} (h : ∀ line ∈ lines, SingleLine line) :
    pieces (· == '\n') (ended lines).toList = lines.map String.toList ++ [[]] := by
  rw [toList_ended]
  induction lines with
  | nil => rfl
  | cons line rest ih =>
      obtain ⟨hline, hrest⟩ := List.forall_mem_cons.mp h
      rw [List.flatMap_cons, List.append_assoc, List.singleton_append, pieces_append (by decide),
        pieces_of_free (free_of_notMem hline), ih hrest]
      rfl

lemma length_pieces (sep : Char → Bool) (cs : List Char) :
    (pieces sep cs).length = cs.countP sep + 1 := by
  induction cs with
  | nil => rfl
  | cons c cs ih =>
      cases hc : sep c with
      | true => rw [pieces, if_pos hc, List.length_cons, ih, List.countP_cons_of_pos hc]
      | false =>
          obtain ⟨p, ps, hps⟩ := List.exists_cons_of_ne_nil (pieces_ne_nil sep cs)
          have hc' : ¬ sep c = true := Bool.eq_false_iff.mp hc
          rw [pieces, if_neg hc', List.countP_cons_of_neg hc', ← ih, hps]
          rfl

/-- Every line holds the line feed that ends it, and those of its own. -/
lemma count_ended (lines : List String) :
    (ended lines).toList.countP (· == '\n')
      = lines.length + (lines.flatMap (·.toList)).count '\n' := by
  rw [toList_ended]
  induction lines with
  | nil => rfl
  | cons line rest ih =>
      have hend : ['\n'].countP (· == '\n') = 1 := rfl
      rw [List.flatMap_cons, List.countP_append, List.countP_append, ih, hend, List.length_cons,
        List.flatMap_cons, List.count_append, List.count]
      omega

/-- **Lines with line feeds in them are read back as more lines.** -/
lemma length_pieces_ended_iff {lines : List String} :
    (pieces (· == '\n') (ended lines).toList).length = lines.length + 1
      ↔ ∀ line ∈ lines, SingleLine line := by
  rw [length_pieces, count_ended, Nat.add_right_cancel_iff, Nat.add_eq_left, List.count_eq_zero,
    List.mem_flatMap]
  simp only [SingleLine, not_exists, not_and]

end RadarConform.Text
