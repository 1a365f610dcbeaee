import RadarConform.Proofs.Pattern.Scanning

/-!
# Escapes as scanners

Whatever a backslash introduces is read by scanners, with one exception: after `\b` an opening
brace may hold the name of a special boundary, and where the pattern ends inside that brace the
reader gives up, while with a parenthesis after it the brace is taken for a repetition.  The brace
is left in place then, and nothing that can repeat stands in it (`readEscape_beyond`).

* `scans_readHex`, `scans_readProperty`, `scans_escapeAfter` — the escapes other than `\b`.
* `scans_readSettled` — inside brackets an escape must not be a condition on the position, so there
  every escape is a scanner.
* `readEscape_beyond` — escapes outside brackets.
-/

namespace RadarConform.Pattern

/-! ## Numbers and names -/

lemma scans_hexDigits (f : Flags) (count value : Nat) : Scans (hexDigits f count value) := by
  induction count generalizing value with
  | zero => exact (scans_pure value).congr fun cs => by simp [hexDigits]
  | succ count ih =>
      have hnext : ∀ c, Scans fun cs => (hexDigit? c).bind fun d =>
          hexDigits f count (16 * value + d) (skipBlanks f cs) :=
        fun c => .option _ fun d => (ih _).skip f
      refine (scans_uncons hnext).congr fun cs => ?_
      cases cs <;> rfl

lemma scans_bracedChars (f : Flags) (comment : Bool) : Scans (bracedChars f comment) := by
  refine scans_until (bracedChars f) (fun _ => rfl) (fun comment c => ?_) comment
  have hskip (comment : Bool) (cs : List Char) :
      bracedChars f comment cs = (bracedChars f comment cs).map fun p => (id p.1, p.2) := by
    cases bracedChars f comment cs <;> rfl
  by_cases hcomment : comment = true
  · exact .inl ⟨c != '\n', id, fun cs => by rw [← hskip, bracedChars, if_pos hcomment]⟩
  · by_cases hblank : (f.ignoreBlanks && Text.isBlank c) = true
    · exact .inl ⟨false, id, fun cs => by
        rw [← hskip, bracedChars, if_neg hcomment, if_pos hblank]⟩
    · by_cases hmark : (f.ignoreBlanks && c == '#') = true
      · exact .inl ⟨true, id, fun cs => by
          rw [← hskip, bracedChars, if_neg hcomment, if_neg hblank, if_pos hmark]⟩
      · by_cases hclose : c = '\x7d'
        · exact .inr ⟨some [], fun cs => by
            rw [bracedChars, if_neg hcomment, if_neg hblank, if_neg hmark, if_pos hclose]
            rfl⟩
        · exact .inl ⟨false, (c :: ·), fun cs => by
            rw [bracedChars, if_neg hcomment, if_neg hblank, if_neg hmark, if_neg hclose]⟩

lemma scans_readHex (f : Flags) (letter : Char) : Scans (readHex f letter) := by
  have hname : ∀ name, Scans fun cs => (hexNumeral? name).bind fun n => (charOf? n).bind fun c =>
      some (Escape.literal c false, skipBlanks f cs) :=
    fun _ => .option _ fun _ => .option _ fun _ => (scans_pure _).skip f
  have hvalue : ∀ value, Scans fun cs => (charOf? value).bind fun c =>
      some (Escape.literal c (letter == 'x'), cs) :=
    fun _ => .option _ fun _ => scans_pure _
  have hbraced := (scans_bracedChars f false).bind hname
  have hcounted := (scans_hexDigits f (if letter = 'x' then 2 else if letter = 'u' then 4 else 8)
    0).bind hvalue
  have hbrace : '\x7b' ≠ ')' := by decide
  refine ((scans_onHead hbrace hbraced hcounted).skip f).congr fun cs => ?_
  unfold readHex
  split
  · next h =>
      simp only [h, onHead]
      split
      · rfl
      · split <;> rfl
  · next rest h =>
      rw [h]
      rfl
  · next c rest hc h =>
      rw [h, onHead, if_neg hc]
      rfl

/-! ## Classes -/

lemma scans_readProperty (f : Flags) (negated : Bool) : Scans (readProperty f negated) := by
  have hname : ∀ name, Scans fun cs => (namedSet? name).bind fun p =>
      (negatedIf f (negated != p.2) (foldedIf f p.1)).bind fun s => some (Escape.set s, cs) :=
    fun _ => .option _ fun _ => .option _ fun _ => scans_pure _
  have hletter (c : Char) : Scans fun cs => (property? [c]).bind fun s =>
      (negatedIf f negated (foldedIf f s)).bind fun s => some (Escape.set s, skipBlanks f cs) :=
    .option _ fun _ => .option _ fun _ => (scans_pure _).skip f
  have hchar (c : Char) := Scans.ite (p := c = '\x7b')
    ((scans_bracedChars f false).bind hname) (.ite (p := c = '\\') scans_fail (hletter c))
  refine (Scans.ite (p := (!f.unicode) = true) scans_fail ((scans_uncons hchar).skip f)).congr
    fun cs => ?_
  unfold readProperty
  split
  · rfl
  · split
    · next h => rw [h]; rfl
    · next rest h => rw [h]; rfl
    · next c rest hc h =>
        rw [h, uncons, if_neg hc]
        rfl

/-- Every escape but `\b`: the text starts after the character `c` behind the backslash. -/
lemma scans_escapeAfter (f : Flags) {c : Char} (hc : c ≠ 'b') :
    Scans fun cs => readEscape f (c :: cs) := by
  simp only [readEscape]
  refine .ite (scans_readHex f c) (.ite (scans_readProperty f _) (.ite (scans_pure _) ?_))
  split
  · next s _ =>
      refine (Scans.option (negatedIf f c.isUpper s) fun s => scans_pure (Escape.set s)).congr
        fun cs => ?_
      cases negatedIf f c.isUpper s <;> rfl
  · split
    · exact scans_pure _
    · split
      · exact scans_pure _
      · exact scans_pure _
      · exact absurd rfl hc
      · exact scans_pure _
      · exact scans_pure _
      · exact scans_pure _
      · exact scans_fail

/-! ## Word boundaries -/

lemma readEscape_b (f : Flags) (cs : List Char) :
    readEscape f ('b' :: cs) = readBoundary f cs := rfl

/-- The condition that `\b` stands for without a brace. -/
def plainBoundary (f : Flags) : Escape := .look (.word .boundary f.unicode)

/-- What stands in the braces of a special boundary. -/
def boundaryName (f : Flags) (cs : List Char) : Option (Escape × List Char) :=
  (bracedChars f false cs).bind fun p =>
    if p.1.all isBoundaryName then
      (boundary? p.1).bind fun l => some (.look (.word l f.unicode), p.2)
    else none

lemma scans_boundaryName (f : Flags) : Scans (boundaryName f) := by
  have hname : ∀ name : List Char, Scans fun cs =>
      if name.all isBoundaryName then
        (boundary? name).bind fun l => some (Escape.look (.word l f.unicode), cs)
      else none :=
    fun _ => .ite (.option _ fun _ => scans_pure _) scans_fail
  exact (scans_bracedChars f false).bind hname

lemma readBoundary_brace (f : Flags) (rest : List Char) :
    readBoundary f ('\x7b' :: rest) =
      match skipBlanks f rest with
      | [] => none
      | c :: inside =>
        if isBoundaryName c then boundaryName f (c :: inside)
        else some (plainBoundary f, '\x7b' :: rest) := by
  simp only [readBoundary]
  cases skipBlanks f rest with
  | nil => rfl
  | cons c inside =>
      simp only [boundaryName]
      split
      · cases bracedChars f false (c :: inside) <;> rfl
      · rfl

lemma readBoundary_plain (f : Flags) {cs : List Char} (h : cs.head? ≠ some '\x7b') :
    readBoundary f cs = some (plainBoundary f, cs) := by
  unfold readBoundary
  split
  · exact absurd rfl h
  · rfl

/-- A boundary is a condition on the position. -/
lemma exists_look_of_readBoundary {f : Flags} {cs rest : List Char} {e : Escape}
    (h : readBoundary f cs = some (e, rest)) : ∃ l, e = .look l := by
  by_cases hbrace : cs.head? = some '\x7b'
  · obtain ⟨rest', rfl⟩ := List.head?_eq_some_iff.mp hbrace
    rw [readBoundary_brace] at h
    split at h
    · cases h
    · split at h
      · obtain ⟨p, -, hp⟩ := Option.bind_eq_some_iff.mp h
        split at hp
        · obtain ⟨l, -, hl⟩ := Option.bind_eq_some_iff.mp hp
          cases hl
          exact ⟨_, rfl⟩
        · cases hp
      · cases h
        exact ⟨_, rfl⟩
  · rw [readBoundary_plain f hbrace] at h
    cases h
    exact ⟨_, rfl⟩

lemma readBoundary_suffix {f : Flags} {cs rest : List Char} {e : Escape}
    (h : readBoundary f cs = some (e, rest)) : rest <:+ cs := by
  by_cases hbrace : cs.head? = some '\x7b'
  · obtain ⟨rest', rfl⟩ := List.head?_eq_some_iff.mp hbrace
    rw [readBoundary_brace] at h
    split at h
    · cases h
    · next hskip =>
        split at h
        · refine ((scans_boundaryName f).suffix h).trans ?_
          exact (hskip ▸ skipBlanks_suffix f rest').trans (List.suffix_cons _ _)
        · cases h
          exact List.suffix_rfl
  · rw [readBoundary_plain f hbrace] at h
    cases h
    exact List.suffix_rfl

lemma readEscape_suffix {f : Flags} {cs rest : List Char} {e : Escape}
    (h : readEscape f cs = some (e, rest)) : rest <:+ cs := by
  cases cs with
  | nil => cases h
  | cons c cs =>
      refine List.IsSuffix.trans ?_ (List.suffix_cons c cs)
      by_cases hc : c = 'b'
      · subst hc
        exact readBoundary_suffix h
      · exact (scans_escapeAfter f hc).suffix h

/-- The pattern ends after the opening brace of a boundary, up to blanks and comments: it is not
read, but with more text to come the boundary may be read and the brace left in place. -/
def Unfinished {α : Type} (f : Flags) (x : Option (α × List Char))
    (y : List Char → Option (α × List Char)) : Prop :=
  x = none ∧ ∃ a rest, skipBlanks f rest = [] ∧ ∀ k b after, y k = some (b, after) →
    after <:+ k ∨ (b = a ∧ after = '\x7b' :: rest ++ ')' :: k)

/-- The braces of a boundary, when the brace is the last character of the pattern but for blanks
and comments. -/
lemma readBoundary_unfinished (f : Flags) {rest : List Char} (h : skipBlanks f rest = []) :
    Unfinished f (readBoundary f ('\x7b' :: rest))
      fun k => readBoundary f ('\x7b' :: rest ++ ')' :: k) := by
  refine ⟨by rw [readBoundary_brace, h], plainBoundary f, rest, h, fun k e after hread => ?_⟩
  simp only [List.cons_append, readBoundary_brace] at hread
  split at hread
  · cases hread
  · next c inside hskip =>
      split at hread
      · next hname =>
          refine .inl (((scans_boundaryName f).suffix hread).trans ?_)
          rcases skipBlanks_beyond f rest with hkept | ⟨-, -, hintrudes⟩
          · -- the parenthesis itself cannot start a name
            have hclose := hkept k
            rw [hskip, h] at hclose
            obtain ⟨rfl, -⟩ := List.cons.inj hclose
            cases hname
          · exact hskip ▸ hintrudes k
      · cases hread
        exact .inr ⟨rfl, rfl⟩

lemma readBoundary_beyond (f : Flags) (cs : List Char) :
    Extends (readBoundary f cs) (fun k => readBoundary f (cs ++ ')' :: k)) ∨
      Unfinished f (readBoundary f cs) fun k => readBoundary f (cs ++ ')' :: k) := by
  by_cases hbrace : cs.head? = some '\x7b'
  · obtain ⟨rest, rfl⟩ := List.head?_eq_some_iff.mp hbrace
    cases hskip : skipBlanks f rest with
    | nil => exact .inr (readBoundary_unfinished f hskip)
    | cons c inside =>
        refine .inl ?_
        simp only [List.cons_append, readBoundary_brace, hskip, skipBlanks_append hskip]
        split
        · exact (scans_boundaryName f).beyond (c :: inside)
        · exact .kept fun k => rfl
  · refine .inl ?_
    rw [readBoundary_plain f hbrace]
    refine .kept fun k => ?_
    refine readBoundary_plain f ?_
    cases cs with
    | nil => simp
    | cons c cs => exact hbrace

lemma readEscape_beyond (f : Flags) (cs : List Char) :
    Extends (readEscape f cs) (fun k => readEscape f (cs ++ ')' :: k)) ∨
      Unfinished f (readEscape f cs) fun k => readEscape f (cs ++ ')' :: k) := by
  cases cs with
  | nil =>
      refine .inl (.failed fun k e rest h => ?_)
      exact (scans_escapeAfter f (show ')' ≠ 'b' by decide)).suffix h
  | cons c cs =>
      by_cases hc : c = 'b'
      · subst hc
        exact readBoundary_beyond f cs
      · exact .inl ((scans_escapeAfter f hc).beyond cs)

/-! ## Escapes in brackets -/

/-- An escape that may stand in brackets: no condition on the position. -/
def settled : Escape → Option Escape
  | .look _ => none
  | e => some e

/-- An element of a list, refused where it is a condition on the position. -/
def readSettled (f : Flags) (cs : List Char) : Option (Escape × List Char) :=
  (readEscape f cs).bind fun p => (settled p.1).map (·, p.2)

lemma scans_readSettled (f : Flags) : Scans (readSettled f) := by
  have hafter (c : Char) : Scans fun cs => readSettled f (c :: cs) := by
    by_cases hc : c = 'b'
    · subst hc
      refine scans_fail.congr fun cs => ?_
      rw [readSettled, readEscape_b]
      cases hread : readBoundary f cs with
      | none => rfl
      | some p =>
          obtain ⟨e, rest⟩ := p
          obtain ⟨l, rfl⟩ := exists_look_of_readBoundary hread
          rfl
    · exact (scans_escapeAfter f hc).filterMap settled
  refine (scans_uncons hafter).congr fun cs => ?_
  cases cs <;> rfl

end RadarConform.Pattern
