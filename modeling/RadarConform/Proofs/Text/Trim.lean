import Mathlib.Tactic.Lemma
import RadarConform.Text.Blank

/-!
# Trimming as a relation

A grammar says that white space may surround a token; a reader trims.  `Padded token text` is the
first of these, and the lemmas here turn it into the second.

* `Blank`, `Padded` — white space, and a token with white space on either side.
* `Tight` — a text that neither starts nor ends with white space.
* `trim_eq_of_padded` — **trimming undoes padding**: a tight token comes back.
* `trim_append_cons` — what stands around a character that is no white space is trimmed on its own.
* `padded_trim`, `tight_trim` — every text is its trimmed form, which is tight, with padding.
* `trim_eq_nil_iff`, `exists_trim_cons` — the texts that trimming empties, and the first character
  that it keeps.
* `trim_map_toLower` — case has no part in trimming.
-/

namespace RadarConform.Text

/-- A text of white space only. -/
def Blank (cs : List Char) : Prop := ∀ c ∈ cs, isBlank c = true

instance (cs : List Char) : Decidable (Blank cs) := List.decidableBAll _ cs

/-- A token with white space on either side of it. -/
def Padded (token text : List Char) : Prop :=
  ∃ before after, Blank before ∧ Blank after ∧ text = before ++ token ++ after

/-- A text that neither starts nor ends with white space. -/
def Tight (cs : List Char) : Prop :=
  (∀ c, cs.head? = some c → isBlank c = false) ∧ ∀ c, cs.getLast? = some c → isBlank c = false

lemma blank_nil : Blank [] := fun _ h => nomatch h

lemma Blank.append {u v : List Char} (hu : Blank u) (hv : Blank v) : Blank (u ++ v) := by
  intro c hc
  rcases List.mem_append.mp hc with hc | hc
  · exact hu c hc
  · exact hv c hc

lemma padded_self (cs : List Char) : Padded cs cs := ⟨[], [], blank_nil, blank_nil, by simp⟩

lemma Padded.trans {s t u : List Char} (hst : Padded s t) (htu : Padded t u) : Padded s u := by
  obtain ⟨b, a, hb, ha, rfl⟩ := hst
  obtain ⟨b', a', hb', ha', rfl⟩ := htu
  exact ⟨b' ++ b, a ++ a', hb'.append hb, ha.append ha', by simp⟩

/-- The ends of a text decide whether it is tight, whatever stands between them. -/
lemma tight_append {l m r : List Char} (hl : Tight l) (hr : Tight r) (hlne : l ≠ [])
    (hrne : r ≠ []) : Tight (l ++ m ++ r) := by
  obtain ⟨c, cs, rfl⟩ := List.exists_cons_of_ne_nil hlne
  refine ⟨fun a ha => hl.1 a (by simpa using ha), fun a ha => hr.2 a ?_⟩
  rw [List.getLast?_append] at ha
  obtain ⟨z, hz⟩ : ∃ z, r.getLast? = some z := ⟨_, List.getLast?_eq_some_getLast hrne⟩
  rw [hz] at ha ⊢
  exact ha

lemma tight_of_forall {cs : List Char} (h : ∀ c ∈ cs, isBlank c = false) : Tight cs :=
  ⟨fun c hc => h c (List.mem_of_head? hc), fun c hc => h c (List.mem_of_getLast? hc)⟩

/-! ## The start of a text -/

/-- White space at the start of a text is all that `trimStart` drops. -/
lemma exists_blank_trimStart (cs : List Char) :
    ∃ before, Blank before ∧ cs = before ++ trimStart cs := by
  refine ⟨cs.takeWhile isBlank, fun c hc => ?_, (List.takeWhile_append_dropWhile).symm⟩
  exact List.all_eq_true.mp List.all_takeWhile c hc

lemma head?_trimStart {cs : List Char} {c : Char} (h : (trimStart cs).head? = some c) :
    isBlank c = false := by
  have := List.head?_dropWhile_not isBlank cs
  rw [trimStart] at h
  rw [h] at this
  simpa using this

lemma trimStart_eq_self {cs : List Char} (h : ∀ c, cs.head? = some c → isBlank c = false) :
    trimStart cs = cs := by
  cases cs with
  | nil => rfl
  | cons c cs => rw [trimStart, List.dropWhile_cons_of_neg (by simp [h c rfl])]

lemma trimStart_append {before : List Char} (h : Blank before) (cs : List Char) :
    trimStart (before ++ cs) = trimStart cs := by
  rw [trimStart, List.dropWhile_append_of_pos h]
  rfl

lemma trimStart_append_cons {c : Char} (hc : isBlank c = false) (u v : List Char) :
    trimStart (u ++ c :: v) = trimStart u ++ c :: v := by
  have hv : trimStart (c :: v) = c :: v := trimStart_eq_self (by simpa using hc)
  rw [trimStart, List.dropWhile_append, ← trimStart, ← trimStart, hv]
  split
  · next hempty => rw [List.isEmpty_iff.mp hempty, List.nil_append]
  · rfl

/-! ## The end of a text

The end of a text is the start of the reversed one. -/

lemma trimEnd_eq (cs : List Char) : trimEnd cs = (trimStart cs.reverse).reverse := rfl

lemma exists_blank_trimEnd (cs : List Char) :
    ∃ after, Blank after ∧ cs = trimEnd cs ++ after := by
  obtain ⟨before, hblank, heq⟩ := exists_blank_trimStart cs.reverse
  refine ⟨before.reverse, fun c hc => hblank c (List.mem_reverse.mp hc), ?_⟩
  rw [trimEnd_eq, ← List.reverse_append, ← heq, List.reverse_reverse]

lemma getLast?_trimEnd {cs : List Char} {c : Char} (h : (trimEnd cs).getLast? = some c) :
    isBlank c = false := by
  rw [trimEnd_eq, List.getLast?_reverse] at h
  exact head?_trimStart h

lemma trimEnd_eq_self {cs : List Char} (h : ∀ c, cs.getLast? = some c → isBlank c = false) :
    trimEnd cs = cs := by
  rw [trimEnd_eq, trimStart_eq_self (by simpa using h), List.reverse_reverse]

lemma trimEnd_append {after : List Char} (h : Blank after) (cs : List Char) :
    trimEnd (cs ++ after) = trimEnd cs := by
  rw [trimEnd_eq, List.reverse_append, trimStart_append, ← trimEnd_eq]
  exact fun c hc => h c (List.mem_reverse.mp hc)

lemma trimEnd_append_cons {c : Char} (hc : isBlank c = false) (u v : List Char) :
    trimEnd (u ++ c :: v) = u ++ c :: trimEnd v := by
  rw [trimEnd_eq, trimEnd_eq, List.reverse_append, List.reverse_cons, List.append_assoc,
    List.singleton_append, trimStart_append_cons hc]
  simp

/-! ## Both ends -/

lemma padded_trim (cs : List Char) : Padded (trim cs) cs := by
  obtain ⟨before, hbefore, hstart⟩ := exists_blank_trimStart cs
  obtain ⟨after, hafter, hend⟩ := exists_blank_trimEnd (trimStart cs)
  refine ⟨before, after, hbefore, hafter, ?_⟩
  rw [trim, List.append_assoc, ← hend]
  exact hstart

lemma mem_of_mem_trim {cs : List Char} {c : Char} (h : c ∈ trim cs) : c ∈ cs := by
  obtain ⟨before, after, -, -, heq⟩ := padded_trim cs
  rw [congrArg (c ∈ ·) heq]
  simp [h]

/-- Trimming drops white space only. -/
lemma mem_trim_iff {cs : List Char} {c : Char} (hc : isBlank c = false) : c ∈ trim cs ↔ c ∈ cs := by
  obtain ⟨before, after, hbefore, hafter, heq⟩ := padded_trim cs
  have hnotBefore : c ∉ before := fun hmem => by
    rw [hbefore c hmem] at hc
    cases hc
  have hnotAfter : c ∉ after := fun hmem => by
    rw [hafter c hmem] at hc
    cases hc
  rw [congrArg (c ∈ ·) heq]
  simp [hnotBefore, hnotAfter]

lemma head?_trim {cs : List Char} {c : Char} (h : (trim cs).head? = some c) :
    isBlank c = false := by
  obtain ⟨after, -, hend⟩ := exists_blank_trimEnd (trimStart cs)
  refine (head?_trimStart : (trimStart cs).head? = some c → _) ?_
  rw [hend, ← trim, List.head?_append, h]
  rfl

lemma tight_trim (cs : List Char) : Tight (trim cs) :=
  ⟨fun _ h => head?_trim h, fun _ h => getLast?_trimEnd h⟩

/-- **Trimming undoes padding.** -/
lemma trim_eq_of_padded {token text : List Char} (h : Padded token text) (ht : Tight token) :
    trim text = token := by
  obtain ⟨before, after, hbefore, hafter, rfl⟩ := h
  rw [List.append_assoc, trim, trimStart_append hbefore]
  cases token with
  | nil =>
      rw [List.nil_append]
      obtain ⟨u, hu, heq⟩ := exists_blank_trimStart after
      rw [← List.nil_append (trimStart after), trimEnd_append]
      · rfl
      · exact fun c hc => hafter c (heq ▸ List.mem_append_right u hc)
  | cons c cs =>
      rw [trimStart_eq_self (by simpa using ht.1), trimEnd_append hafter, trimEnd_eq_self ht.2]

/-- Padding is trimmed away together with the white space of the text itself. -/
lemma Padded.trim_eq {s t : List Char} (h : Padded s t) : trim t = trim s :=
  trim_eq_of_padded ((padded_trim s).trans h) (tight_trim s)

/-- Around a character that is no white space only the outer ends of a text are trimmed. -/
lemma trim_append_cons {c : Char} (hc : isBlank c = false) (u v : List Char) :
    trim (u ++ c :: v) = trimStart u ++ c :: trimEnd v := by
  rw [trim, trimStart_append_cons hc, trimEnd_append_cons hc]

lemma trim_eq_nil_iff {cs : List Char} : trim cs = [] ↔ Blank cs := by
  constructor
  · intro h
    obtain ⟨before, after, hbefore, hafter, heq⟩ := padded_trim cs
    rw [h, List.append_nil] at heq
    rw [heq]
    exact hbefore.append hafter
  · intro h
    exact trim_eq_of_padded ⟨cs, [], h, blank_nil, by simp⟩ (tight_of_forall nofun)

/-- Trimming keeps a first character that is no white space. -/
lemma exists_trim_cons {c : Char} (hc : isBlank c = false) (cs : List Char) :
    ∃ rest, trim (c :: cs) = c :: rest := by
  have hstart : trimStart (c :: cs) = c :: cs := trimStart_eq_self (by simpa using hc)
  obtain ⟨after, hafter, hend⟩ := exists_blank_trimEnd (c :: cs)
  rw [trim, hstart]
  cases htrim : trimEnd (c :: cs) with
  | nil =>
      rw [htrim, List.nil_append] at hend
      rw [hafter c (hend ▸ List.mem_cons_self)] at hc
      cases hc
  | cons d rest =>
      rw [htrim] at hend
      cases hend
      exact ⟨rest, rfl⟩

/-! ## Case -/

/-- No visible character of ASCII is white space. -/
lemma isBlank_of_visible {c : Char} (h : 0x21 ≤ c.toNat) (h' : c.toNat ≤ 0x7E) :
    isBlank c = false := by
  simp only [isBlank, Bool.or_eq_false_iff, Bool.and_eq_false_iff, decide_eq_false_iff_not,
    beq_eq_false_iff_ne]
  omega

lemma isBlank_toLower (c : Char) : isBlank c.toLower = isBlank c := by
  by_cases h : c.val ≥ 'A'.val ∧ c.val ≤ 'Z'.val
  · have hlow : 65 ≤ c.toNat := h.1
    have hhigh : c.toNat ≤ 90 := h.2
    have hval : c.toLower.val = c.val + ('a'.val - 'A'.val) := congrArg Char.val (dif_pos h)
    have hlower : c.toLower.toNat = c.toNat + 32 := by
      rw [Char.toNat, hval, UInt32.toNat_add]
      exact Nat.mod_eq_of_lt (by change c.toNat + 32 < _; omega)
    rw [isBlank_of_visible (c := c) (by omega) (by omega),
      isBlank_of_visible (c := c.toLower) (by omega) (by omega)]
  · exact congrArg isBlank (dif_neg h)

/-- Trimming and folding the case of a text may change places. -/
lemma trim_map_toLower (cs : List Char) :
    trim (cs.map Char.toLower) = (trim cs).map Char.toLower := by
  have hblank : isBlank ∘ Char.toLower = isBlank := funext isBlank_toLower
  simp only [trim, trimEnd, trimStart, List.dropWhile_map, ← List.map_reverse, hblank]

end RadarConform.Text
