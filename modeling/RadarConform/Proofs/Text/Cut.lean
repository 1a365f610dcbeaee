import Mathlib.Tactic.Lemma
import RadarConform.Text.Pieces

/-!
# Cutting at a token

`cutAt` finds the first occurrence of a token, so it undoes joining two texts with the token between
them as long as no occurrence starts earlier.  What has to be free of the token is the first text
**together with the start of the token after it**, since an occurrence could begin in one and end in
the other.

* `append_of_cutAt` — a cut gives the text back.
* `holds_iff_infix` — a text holds a token when the token is a contiguous part of it.
* `cutAt_append` — a join is cut where it was joined.
* `replaced` — one pass from left to right that replaces a token and does not read again what it has
  written: an occurrence of the token is replaced (`replaced_append`), and a character at which none
  starts stays (`replaced_cons`).
-/

namespace RadarConform.Text

lemma dropToken?_eq_some_iff {token text rest : List Char} :
    dropToken? token text = some rest ↔ text = token ++ rest := by
  induction token generalizing text with
  | nil => simp [dropToken?]
  | cons t ts ih =>
      cases text with
      | nil => simp [dropToken?]
      | cons c cs =>
          rw [dropToken?]
          split
          · next htc => subst htc; simp [ih]
          · next htc => simp [Ne.symm htc]

lemma append_of_cutAt {token text before after : List Char}
    (h : cutAt token text = some (before, after)) : text = before ++ token ++ after := by
  induction text generalizing before with
  | nil =>
      simp only [cutAt] at h
      split at h
      · simp_all
      · cases h
  | cons c cs ih =>
      simp only [cutAt] at h
      split at h
      · next rest hrest =>
          cases h
          exact dropToken?_eq_some_iff.mp hrest
      · simp only [Option.map_eq_some_iff, Prod.mk.injEq, Prod.exists] at h
        obtain ⟨b, a, hcut, rfl, rfl⟩ := h
        rw [ih hcut]
        rfl

/-- A text that a token occurs in can be cut at it. -/
lemma exists_cutAt_of_infix {token text : List Char} (h : token <:+: text) :
    ∃ parts, cutAt token text = some parts := by
  induction text with
  | nil =>
      rw [List.eq_nil_of_infix_nil h]
      exact ⟨_, rfl⟩
  | cons c cs ih =>
      rw [cutAt]
      rcases hdrop : dropToken? token (c :: cs) with _ | rest
      · rcases List.infix_cons_iff.mp h with ⟨rest, hprefix⟩ | hinfix
        · rw [dropToken?_eq_some_iff.mpr hprefix.symm] at hdrop
          cases hdrop
        · obtain ⟨⟨before, after⟩, hcut⟩ := ih hinfix
          exact ⟨(c :: before, after), by simp [hcut]⟩
      · exact ⟨_, rfl⟩

lemma holds_iff_infix {token text : List Char} : holds token text = true ↔ token <:+: text := by
  rw [holds, Option.isSome_iff_exists]
  constructor
  · rintro ⟨⟨before, after⟩, h⟩
    exact ⟨before, after, (append_of_cutAt h).symm⟩
  · exact exists_cutAt_of_infix

lemma cutAt_eq_none_iff {token text : List Char} :
    cutAt token text = none ↔ ¬ token <:+: text := by
  rw [← holds_iff_infix, holds, Bool.not_eq_true, Option.isSome_eq_false_iff,
    Option.isNone_iff_eq_none]

/-- A token at the very start of a joined text would already be one of the first text and the start
of the token. -/
lemma infix_of_prefix_append {token before after : List Char}
    (h : token <+: before ++ token ++ after) (hne : before ≠ []) :
    token <:+: before ++ token.dropLast := by
  have hlen : token.length ≤ (before ++ token.dropLast).length := by
    have := List.length_pos_iff.mpr hne
    rw [List.length_append, List.length_dropLast]
    omega
  have hpart : before ++ token.dropLast <+: before ++ token ++ after := by
    rw [List.append_assoc]
    exact List.prefix_append_right_inj before |>.mpr
      ((List.dropLast_prefix token).trans (List.prefix_append token after))
  exact (List.prefix_of_prefix_length_le h hpart hlen).isInfix

/-- **A join is cut where it was joined**, if no occurrence of the token starts earlier. -/
lemma cutAt_append {token before : List Char} (hne : token ≠ [])
    (h : ¬ token <:+: before ++ token.dropLast) (after : List Char) :
    cutAt token (before ++ token ++ after) = some (before, after) := by
  induction before with
  | nil =>
      obtain ⟨t, ts, rfl⟩ := List.exists_cons_of_ne_nil hne
      have hdrop : dropToken? (t :: ts) (t :: (ts ++ after)) = some after :=
        dropToken?_eq_some_iff.mpr rfl
      simp only [List.nil_append, List.cons_append, cutAt, hdrop]
  | cons c cs ih =>
      have hcs : ¬ token <:+: cs ++ token.dropLast := fun hi =>
        h (hi.trans (List.suffix_cons _ _).isInfix)
      have hdrop : dropToken? token (c :: (cs ++ token ++ after)) = none := by
        rcases hd : dropToken? token (c :: (cs ++ token ++ after)) with _ | rest
        · rfl
        · have hprefix : token <+: (c :: cs) ++ token ++ after :=
            ⟨rest, (dropToken?_eq_some_iff.mp hd).symm⟩
          exact absurd (infix_of_prefix_append hprefix (by simp)) h
      simp only [List.cons_append, cutAt, hdrop, ih hcs, Option.map_some]

/-! ## Replacing -/

section Replacing

variable {token : List Char} (hne : token ≠ []) (new : List Char)

/-- A text with every occurrence of a token replaced, in one pass from left to right. -/
def replaced (text : List Char) : List Char := new.intercalate (piecesAt token hne text)

lemma piecesAt_ne_nil (text : List Char) : piecesAt token hne text ≠ [] := by
  rw [piecesAt]
  split
  · exact List.cons_ne_nil _ _
  · exact List.cons_ne_nil _ _

/-- A text without the token is left alone. -/
lemma replaced_of_free {text : List Char} (h : ¬ token <:+: text) :
    replaced hne new text = text := by
  rw [replaced, piecesAt]
  split
  · exact List.intercalate_singleton
  · next hcut => cases (cutAt_eq_none_iff.mpr h).symm.trans hcut

lemma replaced_nil : replaced hne new [] = [] :=
  replaced_of_free hne new fun h => hne (List.eq_nil_of_infix_nil h)

/-- The token of a cut is replaced, and what is before it holds no other. -/
lemma replaced_of_cutAt {text before after : List Char}
    (h : cutAt token text = some (before, after)) :
    replaced hne new text = before ++ new ++ replaced hne new after := by
  rw [replaced, piecesAt]
  split
  · next hnone => cases hnone.symm.trans h
  · next hcut =>
      cases hcut.symm.trans h
      rw [List.intercalate_cons_of_ne_nil (piecesAt_ne_nil hne after), replaced,
        List.append_assoc]

/-- An occurrence of the token at the start is replaced. -/
lemma replaced_append (rest : List Char) :
    replaced hne new (token ++ rest) = new ++ replaced hne new rest := by
  have hcut : cutAt token (token ++ rest) = some ([], rest) := by
    refine @cutAt_append token [] hne (fun h => ?_) rest
    have hlength := h.length_le
    have := List.length_pos_iff.mpr hne
    rw [List.nil_append, List.length_dropLast] at hlength
    omega
  rw [replaced_of_cutAt hne new hcut, List.nil_append]

/-- A character at which no occurrence of the token starts stays as it is. -/
lemma replaced_cons {c : Char} {cs : List Char} (h : ¬ token <+: c :: cs) :
    replaced hne new (c :: cs) = c :: replaced hne new cs := by
  have hdrop : dropToken? token (c :: cs) = none := by
    refine Option.eq_none_iff_forall_ne_some.mpr fun rest hrest => h ⟨rest, ?_⟩
    exact (dropToken?_eq_some_iff.mp hrest).symm
  by_cases hcs : token <:+: cs
  · obtain ⟨⟨before, after⟩, hcut⟩ := exists_cutAt_of_infix hcs
    have hcons : cutAt token (c :: cs) = some (c :: before, after) := by
      simp only [cutAt, hdrop, hcut, Option.map_some]
    rw [replaced_of_cutAt hne new hcut, replaced_of_cutAt hne new hcons]
    rfl
  · have hcons : ¬ token <:+: c :: cs := fun hinfix =>
      (List.infix_cons_iff.mp hinfix).elim h hcs
    rw [replaced_of_free hne new hcs, replaced_of_free hne new hcons]

end Replacing

end RadarConform.Text
