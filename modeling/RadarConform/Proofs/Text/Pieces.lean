import Mathlib.Tactic.Lemma
import RadarConform.Text.Pieces

/-!
# Pieces between separators

The pieces of a text are those of the library's `List.splitOnP`, so its laws hold for them.  A cut
at the first separator is the same thing seen from the left.

* `pieces_eq_splitOnP` — the two functions are one.
* `pieces_append`, `pieces_of_free`, `pieces_append_of_free` — **separators cut and nothing else
  does**.
* `mem_of_mem_pieces` — a piece holds characters of the text, and no separator.
* `cutOnce_eq_some_iff`, `cutOnce_eq_none_iff` — a cut is at the first separator, if there is one.
* `mem_joined` — joining adds separators only.
* `cut_run` — a run of characters of one kind is taken whole.
-/

namespace RadarConform.Text

variable {α : Type} {sep : α → Bool} {cs ds : List α}

lemma pieces_eq_splitOnP (sep : α → Bool) (cs : List α) :
    pieces sep cs = cs.splitOnP sep := by
  induction cs with
  | nil => rfl
  | cons c cs ih =>
      rw [pieces, List.splitOnP_cons_eq_if_modifyHead, ih]
      cases hsplit : cs.splitOnP sep with
      | nil => exact absurd hsplit (List.splitOnP_ne_nil sep cs)
      | cons p ps => rfl

lemma pieces_ne_nil (sep : α → Bool) (cs : List α) : pieces sep cs ≠ [] := by
  rw [pieces_eq_splitOnP]
  exact List.splitOnP_ne_nil sep cs

/-- A text without a character is free of it as a separator. -/
lemma free_of_notMem [BEq α] [LawfulBEq α] {c : α} (h : c ∉ cs) : ∀ b ∈ cs, (b == c) = false :=
  fun _ hb => beq_eq_false_iff_ne.mpr fun heq => h (heq ▸ hb)

/-- A text without separators is one piece. -/
lemma pieces_of_free (h : ∀ c ∈ cs, sep c = false) : pieces sep cs = [cs] := by
  rw [pieces_eq_splitOnP, List.splitOnP_eq_singleton h]

/-- A separator ends a piece and starts one. -/
lemma pieces_append {c : α} (hc : sep c = true) (cs ds : List α) :
    pieces sep (cs ++ c :: ds) = pieces sep cs ++ pieces sep ds := by
  simp only [pieces_eq_splitOnP, List.splitOnP_append_cons cs ds hc]

/-- What is free of separators goes into the first piece. -/
lemma pieces_append_of_free (h : ∀ c ∈ cs, sep c = false) (ds : List α) :
    pieces sep (cs ++ ds) = (pieces sep ds).modifyHead (cs ++ ·) := by
  induction cs with
  | nil =>
      obtain ⟨p, ps, hps⟩ := List.exists_cons_of_ne_nil (pieces_ne_nil sep ds)
      rw [List.nil_append, hps]
      rfl
  | cons c cs ih =>
      obtain ⟨hc, hcs⟩ := List.forall_mem_cons.mp h
      obtain ⟨p, ps, hps⟩ := List.exists_cons_of_ne_nil (pieces_ne_nil sep ds)
      rw [List.cons_append, pieces, hc, ih hcs, hps]
      rfl

/-- A piece is made of characters of the text that are no separators. -/
lemma mem_of_mem_pieces {p : List α} (h : p ∈ pieces sep cs) {c : α} (hc : c ∈ p) :
    c ∈ cs ∧ sep c = false := by
  induction cs generalizing p with
  | nil =>
      rw [pieces, List.mem_singleton] at h
      subst h
      cases hc
  | cons d cs ih =>
      rw [pieces_eq_splitOnP, List.splitOnP_cons_eq_if_modifyHead, ← pieces_eq_splitOnP] at h
      split at h
      · rcases List.mem_cons.mp h with rfl | h
        · cases hc
        · exact (ih h hc).imp_left (List.mem_cons_of_mem d)
      · next hd =>
          obtain ⟨q, qs, hqs⟩ := List.exists_cons_of_ne_nil (pieces_ne_nil sep cs)
          rw [hqs, List.modifyHead_cons] at h
          rcases List.mem_cons.mp h with rfl | h
          · rcases List.mem_cons.mp hc with rfl | hc
            · exact ⟨List.mem_cons_self, Bool.eq_false_iff.mpr hd⟩
            · exact (ih (hqs ▸ List.mem_cons_self) hc).imp_left (List.mem_cons_of_mem d)
          · exact (ih (hqs ▸ List.mem_cons_of_mem q h) hc).imp_left (List.mem_cons_of_mem d)

/-- A text is in one piece exactly when there is no separator in it. -/
lemma pieces_eq_singleton_iff {p : List α} :
    pieces sep cs = [p] ↔ p = cs ∧ ∀ c ∈ cs, sep c = false := by
  constructor
  · intro h
    have hfree : ∀ c ∈ cs, sep c = false := by
      intro c hc
      refine Bool.eq_false_iff.mpr fun hsep => ?_
      obtain ⟨before, after, rfl⟩ := List.append_of_mem hc
      rw [pieces_append hsep] at h
      have hlength := congrArg List.length h
      have := List.length_pos_iff.mpr (pieces_ne_nil sep before)
      have := List.length_pos_iff.mpr (pieces_ne_nil sep after)
      rw [List.length_append, List.length_singleton] at hlength
      omega
    rw [pieces_of_free hfree] at h
    exact ⟨(List.singleton_inj.mp h).symm, hfree⟩
  · rintro ⟨rfl, h⟩
    exact pieces_of_free h

/-- The last piece of a text goes on in what is written after it. -/
lemma exists_pieces_append_of_free (cs : List α) (h : ∀ c ∈ ds, sep c = false) :
    ∃ ps p, pieces sep cs = ps ++ [p] ∧ pieces sep (cs ++ ds) = ps ++ [p ++ ds] := by
  induction cs with
  | nil => exact ⟨[], [], rfl, pieces_of_free h⟩
  | cons c cs ih =>
      obtain ⟨ps, p, hcs, happend⟩ := ih
      rw [List.cons_append, pieces, pieces, hcs, happend]
      split
      · exact ⟨[] :: ps, p, rfl, rfl⟩
      · cases ps with
        | nil => exact ⟨[], c :: p, rfl, rfl⟩
        | cons q qs => exact ⟨(c :: q) :: qs, p, rfl, rfl⟩

/-! ## One cut -/

lemma cutOnce_eq_some_iff {before after : List α} :
    cutOnce sep cs = some (before, after) ↔
      ∃ c, sep c = true ∧ cs = before ++ c :: after ∧ ∀ b ∈ before, sep b = false := by
  induction cs generalizing before with
  | nil => simp [cutOnce]
  | cons d cs ih =>
      rw [cutOnce]
      split
      · next hd =>
          constructor
          · intro h
            cases h
            exact ⟨d, hd, rfl, fun _ hb => nomatch hb⟩
          · rintro ⟨c, hc, heq, hbefore⟩
            cases before with
            | nil =>
                cases heq
                rfl
            | cons b before =>
                cases heq
                rw [hbefore d List.mem_cons_self] at hd
                cases hd
      · next hd =>
          simp only [Option.map_eq_some_iff, Prod.mk.injEq, Prod.exists]
          constructor
          · rintro ⟨b, a, hcut, rfl, rfl⟩
            obtain ⟨c, hc, rfl, hb⟩ := ih.mp hcut
            refine ⟨c, hc, rfl, List.forall_mem_cons.mpr ⟨Bool.eq_false_iff.mpr hd, hb⟩⟩
          · rintro ⟨c, hc, heq, hbefore⟩
            cases before with
            | nil =>
                cases heq
                exact absurd hc hd
            | cons b before =>
                cases heq
                rw [List.forall_mem_cons] at hbefore
                exact ⟨before, after, ih.mpr ⟨c, hc, rfl, hbefore.2⟩, rfl, rfl⟩

lemma cutOnce_eq_none_iff : cutOnce sep cs = none ↔ ∀ c ∈ cs, sep c = false := by
  induction cs with
  | nil => simp [cutOnce]
  | cons d cs ih =>
      rw [cutOnce, List.forall_mem_cons]
      split
      · next hd => simp [hd]
      · next hd => rw [Option.map_eq_none_iff, ih, and_iff_right (Bool.eq_false_iff.mpr hd)]

/-! ## Joining -/

/-- Nothing but the separator is added to joined texts. -/
lemma mem_joined {c : Char} {separator : String} {texts : List String}
    (h : c ∈ (joined separator texts).toList) :
    c ∈ separator.toList ∨ ∃ text ∈ texts, c ∈ text.toList := by
  induction texts with
  | nil => cases h
  | cons text rest ih =>
      cases rest with
      | nil => exact .inr ⟨text, List.mem_cons_self, h⟩
      | cons next rest =>
          rw [joined, String.toList_append, String.toList_append, List.mem_append,
            List.mem_append] at h
          rcases h with (h | h) | h
          · exact .inr ⟨text, List.mem_cons_self, h⟩
          · exact .inl h
          · refine (ih h).imp_right ?_
            rintro ⟨other, hother, hc⟩
            exact ⟨other, List.mem_cons_of_mem text hother, hc⟩

/-! ## Runs -/

/-- A run of characters of one kind ends where a character of another kind follows. -/
lemma cut_run {p : Char → Bool} {cs rest : List Char} (hcs : ∀ c ∈ cs, p c = true)
    (hrest : ∀ c, rest.head? = some c → p c = false) :
    (cs ++ rest).takeWhile p = cs ∧ (cs ++ rest).dropWhile p = rest := by
  rw [List.takeWhile_append_of_pos hcs, List.dropWhile_append_of_pos hcs]
  cases rest with
  | nil => simp
  | cons c rest => simp [hrest c rfl]

end RadarConform.Text
