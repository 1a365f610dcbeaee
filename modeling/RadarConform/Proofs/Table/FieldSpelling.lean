import RadarConform.Proofs.Computation
import RadarConform.Proofs.Table.Record
import RadarConform.Proofs.Text.Pieces
import RadarConform.Proofs.Text.Trim

/-!
# Spellings of a record

A field may be written in many ways.  Between quotes it may hold anything; plainly it may hold
anything but a semicolon, if it neither starts with a quote nor is changed by trimming; and spaces
and tabs may stand on either side of it.

* `Spells` — the ways to write a field.
* `Holds`, `Breaks`, `takeField_eq_iff` — **how the first field of a line is read**: a whole field,
  at the end of the line or before a semicolon, or one of the two faults.
* `splitChars_eq_ok_iff`, `splitChars_eq_error_iff` — **the lines that are records, and the first
  field at fault in the others**.
* `split_spelled` — every spelling is read back, and what a line says can be said in quotes.
-/

namespace RadarConform.Record

open Text

/-! ## Blanks -/

/-- A text of spaces and tabs only. -/
def Padding (cs : List Char) : Prop := ∀ c ∈ cs, isPadding c = true

instance (cs : List Char) : Decidable (Padding cs) := List.decidableBAll _ cs

lemma isBlank_of_isPadding {c : Char} (h : isPadding c = true) : isBlank c = true := by
  rw [isPadding, Bool.or_eq_true, beq_iff_eq, beq_iff_eq] at h
  rcases h with rfl | rfl <;> decide

lemma Padding.blank {cs : List Char} (h : Padding cs) : Blank cs :=
  fun c hc => isBlank_of_isPadding (h c hc)

lemma Padding.semicolon_notMem {cs : List Char} (h : Padding cs) : ';' ∉ cs :=
  fun hmem => absurd (h ';' hmem) (by decide)

lemma exists_padding_dropPadding (cs : List Char) :
    ∃ before, Padding before ∧ cs = before ++ dropPadding cs := by
  refine ⟨cs.takeWhile isPadding, fun c hc => ?_, List.takeWhile_append_dropWhile.symm⟩
  exact List.all_eq_true.mp List.all_takeWhile c hc

lemma dropPadding_append {before : List Char} (h : Padding before) (cs : List Char) :
    dropPadding (before ++ cs) = dropPadding cs :=
  List.dropWhile_append_of_pos h

lemma dropPadding_of_padding {cs : List Char} (h : Padding cs) : dropPadding cs = [] := by
  rw [← List.append_nil cs, dropPadding_append h]
  rfl

lemma dropPadding_cons {c : Char} (hc : isPadding c = false) (cs : List Char) :
    dropPadding (c :: cs) = c :: cs :=
  List.dropWhile_cons_of_neg (by simp [hc])

lemma isPadding_of_dropPadding {c : Char} {cs rest : List Char} (h : dropPadding cs = c :: rest) :
    isPadding c = false := by
  have hhead := List.head?_dropWhile_not isPadding cs
  rw [← dropPadding, h] at hhead
  simpa using hhead

lemma dropPadding_append_cons {c : Char} (hc : isPadding c = false) (u v : List Char) :
    dropPadding (u ++ c :: v) = dropPadding u ++ c :: v := by
  obtain ⟨before, hbefore, hu⟩ := exists_padding_dropPadding u
  rw [congrArg (· ++ c :: v) hu, List.append_assoc, dropPadding_append hbefore]
  cases hdrop : dropPadding u with
  | nil => exact dropPadding_cons hc v
  | cons d rest => exact dropPadding_cons (isPadding_of_dropPadding hdrop) (rest ++ c :: v)

/-! ## Ways to write a field -/

/-- The ways to write a field. -/
inductive Spells (field : String) : List Char → Prop
  | quoted {before after : List Char} : Padding before → Padding after →
      Spells field (before ++ quotedField field ++ after)
  | plain {before after : List Char} : Padding before → Padding after →
      ';' ∉ field.toList → field.toList.head? ≠ some '"' → trim field.toList = field.toList →
      Spells field (before ++ field.toList ++ after)

/-- Whether a text starts with a quote, after spaces and tabs. -/
def StartsQuoted (text : List Char) : Prop := ∃ quoted, dropPadding text = '"' :: quoted

/-- A text that is one whole field, and what it holds. -/
inductive Holds : List Char → List Char → Prop
  | quoted {before field after : List Char} : Padding before → Padding after →
      Holds (before ++ '"' :: (doubled field ++ '"' :: after)) field
  | plain {text : List Char} : ';' ∉ text → ¬ StartsQuoted text → Holds text (trim text)

/-- The faults of a quoted field at the start of a text: no quote closes it, or something else than
a semicolon follows the one that does. -/
inductive Breaks : List Char → Fault → Prop
  | unterminated {before quoted : List Char} : Padding before →
      (∀ field rest, quoted = doubled field ++ '"' :: rest → rest.head? = some '"') →
      Breaks (before ++ '"' :: quoted) .unterminated
  | afterQuote {before field after rest : List Char} {c : Char} : Padding before → Padding after →
      isPadding c = false → c ≠ ';' → (after = [] → c ≠ '"') →
      Breaks (before ++ '"' :: (doubled field ++ '"' :: (after ++ c :: rest))) (.afterQuote c)

/-- What stands after a semicolon has no part in how a text starts. -/
lemma startsQuoted_append_semicolon_iff {text rest : List Char} :
    StartsQuoted (text ++ ';' :: rest) ↔ StartsQuoted text := by
  rw [StartsQuoted, StartsQuoted, dropPadding_append_cons (by decide)]
  cases dropPadding text with
  | nil => simp
  | cons c cs => simp

lemma Spells.holds {field : String} {text : List Char} (h : Spells field text) :
    Holds text field.toList := by
  cases h with
  | quoted hbefore hafter =>
      rw [quotedField, List.append_assoc, List.cons_append, List.append_assoc,
        List.singleton_append]
      exact .quoted hbefore hafter
  | @plain before after hbefore hafter hsemicolon hquote htrim =>
      have hplain : ¬ StartsQuoted (before ++ field.toList ++ after) := by
        rintro ⟨quoted, hquoted⟩
        rw [List.append_assoc, dropPadding_append hbefore] at hquoted
        cases hfield : field.toList with
        | nil =>
            rw [hfield, List.nil_append, dropPadding_of_padding hafter] at hquoted
            cases hquoted
        | cons c cs =>
            have hc : isPadding c = false := by
              have htight := tight_trim field.toList
              rw [htrim, hfield] at htight
              refine Bool.eq_false_iff.mpr fun hpadding => ?_
              have := htight.1 c rfl
              rw [isBlank_of_isPadding hpadding] at this
              cases this
            rw [hfield, List.cons_append, dropPadding_cons hc] at hquoted
            cases hquoted
            exact hquote (by rw [hfield]; rfl)
      have hfree : ';' ∉ before ++ field.toList ++ after := by
        simp [hbefore.semicolon_notMem, hafter.semicolon_notMem, hsemicolon]
      have hpadded : Padded field.toList (before ++ field.toList ++ after) :=
        ⟨before, after, hbefore.blank, hafter.blank, rfl⟩
      have hholds := Holds.plain hfree hplain
      rwa [hpadded.trim_eq, htrim] at hholds

/-! ## One field -/

lemma takeQuoted_eq_some_iff {cs field rest : List Char} :
    takeQuoted cs = some (field, rest) ↔
      cs = doubled field ++ '"' :: rest ∧ rest.head? ≠ some '"' := by
  constructor
  · intro h
    fun_induction takeQuoted cs generalizing field with
    | case1 => cases h
    | case2 cs ih =>
        simp only [Option.map_eq_some_iff, Prod.mk.injEq, Prod.exists] at h
        obtain ⟨field, rest, hquoted, rfl, rfl⟩ := h
        obtain ⟨rfl, hrest⟩ := ih hquoted
        exact ⟨rfl, hrest⟩
    | case3 cs hnot =>
        cases h
        refine ⟨rfl, fun hhead => ?_⟩
        obtain ⟨_, rfl⟩ := List.head?_eq_some_iff.mp hhead
        exact hnot _ rfl rfl
    | case4 c cs hnot hc ih =>
        simp only [Option.map_eq_some_iff, Prod.mk.injEq, Prod.exists] at h
        obtain ⟨field, rest, hquoted, rfl, rfl⟩ := h
        obtain ⟨rfl, hrest⟩ := ih hquoted
        exact ⟨by rw [doubled, if_neg hc, List.cons_append], hrest⟩
  · rintro ⟨rfl, h⟩
    exact takeQuoted_doubled field h

/-- How the first field of a line is read. -/
inductive FieldRead : List Char → Except Fault (List Char × Option (List Char)) → Prop
  | last {text field : List Char} : Holds text field → FieldRead text (.ok (field, none))
  | more {text field : List Char} (rest : List Char) : Holds text field →
      FieldRead (text ++ ';' :: rest) (.ok (field, some rest))
  | fault {text : List Char} {fault : Fault} : Breaks text fault → FieldRead text (.error fault)

/-- A quoted field at the end of the line. -/
lemma takeField_quoted_last {before quoted field after : List Char} (h : Padding before)
    (hquoted : takeQuoted quoted = some (field, after)) (hafter : dropPadding after = []) :
    takeField (before ++ '"' :: quoted) = .ok (field, none) := by
  rw [takeField, dropPadding_append h, dropPadding_cons (by decide)]
  simp only [hquoted, hafter]

/-- A quoted field with something after it. -/
lemma takeField_quoted_more {before quoted field after rest : List Char} {c : Char}
    (h : Padding before) (hquoted : takeQuoted quoted = some (field, after))
    (hafter : dropPadding after = c :: rest) : takeField (before ++ '"' :: quoted) =
      if c = ';' then .ok (field, some rest) else .error (.afterQuote c) := by
  rw [takeField, dropPadding_append h, dropPadding_cons (by decide)]
  simp only [hquoted, hafter]

/-- A field that does not start with a quote ends at the first semicolon. -/
lemma takeField_of_plain {text : List Char} (h : ¬ StartsQuoted text) :
    takeField text =
      match cutOnce (· == ';') (dropPadding text) with
      | some (field, rest) => .ok (trim field, some rest)
      | none => .ok (trim (dropPadding text), none) := by
  rw [takeField]
  split
  · next quoted hquoted => exact absurd ⟨quoted, hquoted⟩ h
  · rfl

lemma trim_dropPadding (text : List Char) : trim (dropPadding text) = trim text := by
  obtain ⟨before, hbefore, htext⟩ := exists_padding_dropPadding text
  have hpadded : Padded (dropPadding text) text :=
    ⟨before, [], hbefore.blank, blank_nil, by rw [List.append_nil]; exact htext⟩
  exact hpadded.trim_eq.symm

lemma semicolon_notMem_dropPadding {text : List Char} (h : ';' ∉ text) :
    ';' ∉ dropPadding text :=
  fun hmem => h ((List.dropWhile_sublist _).subset hmem)

/-- Blanks after a closing quote do not double it. -/
lemma Padding.head?_append_ne {after : List Char} (h : Padding after) {rest : List Char}
    (hrest : after = [] → rest.head? ≠ some '"') : (after ++ rest).head? ≠ some '"' := by
  cases after with
  | nil => exact hrest rfl
  | cons c cs =>
      intro hhead
      cases hhead
      exact absurd (h '"' List.mem_cons_self) (by decide)

lemma Holds.takeField_last {text field : List Char} (h : Holds text field) :
    takeField text = .ok (field, none) := by
  cases h with
  | @quoted before field after hbefore hafter =>
      have hhead : after.head? ≠ some '"' := by
        simpa using @Padding.head?_append_ne after hafter [] nofun
      exact takeField_quoted_last hbefore (takeQuoted_doubled field hhead)
        (dropPadding_of_padding hafter)
  | plain hsemicolon hplain =>
      have hnone : cutOnce (· == ';') (dropPadding text) = none :=
        cutOnce_eq_none_iff.mpr (free_of_notMem (semicolon_notMem_dropPadding hsemicolon))
      rw [takeField_of_plain hplain, hnone]
      simp only [trim_dropPadding]

lemma Holds.takeField_more {text field : List Char} (h : Holds text field) (rest : List Char) :
    takeField (text ++ ';' :: rest) = .ok (field, some rest) := by
  cases h with
  | @quoted before field after hbefore hafter =>
      have hhead : (after ++ ';' :: rest).head? ≠ some '"' := hafter.head?_append_ne (by simp)
      have hdrop : dropPadding (after ++ ';' :: rest) = ';' :: rest := by
        rw [dropPadding_append hafter, dropPadding_cons (by decide)]
      rw [List.append_assoc, List.cons_append, List.append_assoc, List.cons_append,
        takeField_quoted_more hbefore (takeQuoted_doubled field hhead) hdrop, if_pos rfl]
  | plain hsemicolon hplain =>
      have hcut : cutOnce (· == ';') (dropPadding (text ++ ';' :: rest))
          = some (dropPadding text, rest) := by
        rw [dropPadding_append_cons (by decide)]
        exact cutOnce_eq_some_iff.mpr
          ⟨';', rfl, rfl, free_of_notMem (semicolon_notMem_dropPadding hsemicolon)⟩
      rw [takeField_of_plain (mt startsQuoted_append_semicolon_iff.mp hplain), hcut]
      simp only [trim_dropPadding]

lemma Breaks.takeField_eq {text : List Char} {fault : Fault} (h : Breaks text fault) :
    takeField text = .error fault := by
  cases h with
  | @unterminated before quoted hbefore hopen =>
      have hnone : takeQuoted quoted = none := by
        refine Option.eq_none_iff_forall_ne_some.mpr fun ⟨field, rest⟩ htake => ?_
        obtain ⟨hquoted, hrest⟩ := takeQuoted_eq_some_iff.mp htake
        exact hrest (hopen field rest hquoted)
      rw [takeField, dropPadding_append hbefore, dropPadding_cons (by decide)]
      simp only [hnone]
  | @afterQuote before field after rest c hbefore hafter hpadding hsemicolon hquote =>
      have hhead : (after ++ c :: rest).head? ≠ some '"' :=
        hafter.head?_append_ne fun hnil => by simpa using hquote hnil
      have hdrop : dropPadding (after ++ c :: rest) = c :: rest := by
        rw [dropPadding_append hafter, dropPadding_cons hpadding]
      rw [takeField_quoted_more hbefore (takeQuoted_doubled field hhead) hdrop, if_neg hsemicolon]

lemma FieldRead.takeField_eq {text : List Char} {r : Except Fault (List Char × Option (List Char))}
    (h : FieldRead text r) : takeField text = r := by
  cases h with
  | last h => exact h.takeField_last
  | more rest h => exact h.takeField_more rest
  | fault h => exact h.takeField_eq

/-- What follows an opening quote is read to the end of the field or to what is wrong with it. -/
lemma exists_fieldRead_quoted {before : List Char} (hbefore : Padding before)
    (quoted : List Char) : ∃ r, FieldRead (before ++ '"' :: quoted) r := by
  cases htake : takeQuoted quoted with
  | none =>
      refine ⟨_, .fault (.unterminated hbefore fun field rest hquoted => ?_)⟩
      by_contra hrest
      cases htake.symm.trans (takeQuoted_eq_some_iff.mpr ⟨hquoted, hrest⟩)
  | some parts =>
      obtain ⟨field, rest⟩ := parts
      obtain ⟨rfl, hrest⟩ := takeQuoted_eq_some_iff.mp htake
      obtain ⟨after, hafter, heq⟩ := exists_padding_dropPadding rest
      cases hdrop : dropPadding rest with
      | nil =>
          rw [hdrop, List.append_nil] at heq
          rw [heq]
          exact ⟨_, .last (.quoted hbefore hafter)⟩
      | cons c more =>
          rw [hdrop] at heq
          by_cases hc : c = ';'
          · refine ⟨.ok (field, some more), ?_⟩
            have hholds := FieldRead.more more (@Holds.quoted before field after hbefore hafter)
            rw [heq, hc]
            simpa using hholds
          · rw [heq]
            refine ⟨_, .fault (.afterQuote hbefore hafter (isPadding_of_dropPadding hdrop) hc ?_)⟩
            rintro rfl rfl
            exact hrest (by rw [heq]; rfl)

/-- The first field of every line is read in one of these ways. -/
lemma exists_fieldRead (line : List Char) : ∃ r, FieldRead line r := by
  by_cases hquoted : StartsQuoted line
  · obtain ⟨quoted, hdrop⟩ := hquoted
    obtain ⟨before, hbefore, hline⟩ := exists_padding_dropPadding line
    rw [hline, hdrop]
    exact exists_fieldRead_quoted hbefore quoted
  · by_cases hsemicolon : ';' ∈ line
    · obtain ⟨text, rest, rfl, htext⟩ := List.eq_append_cons_of_mem hsemicolon
      rw [startsQuoted_append_semicolon_iff] at hquoted
      exact ⟨_, .more rest (.plain htext hquoted)⟩
    · exact ⟨_, .last (.plain hsemicolon hquoted)⟩

/-- **How the first field of a line is read.** -/
lemma takeField_eq_iff {line : List Char} {r : Except Fault (List Char × Option (List Char))} :
    takeField line = r ↔ FieldRead line r := by
  refine ⟨?_, FieldRead.takeField_eq⟩
  rintro rfl
  obtain ⟨r, hr⟩ := exists_fieldRead line
  rwa [hr.takeField_eq]

/-! ## Lines -/

/-- Some whole fields, each of them with the semicolon that ends it. -/
def ended (texts : List (List Char)) : List Char := texts.flatMap (· ++ [';'])

lemma splitChars_of_fault {cs : List Char} {fault : Fault} (h : takeField cs = .error fault) :
    splitChars cs = .error fault := by
  rw [splitChars]
  split <;> simp_all

/-- Whole fields at the start of a line are read, and then what follows them. -/
lemma splitChars_ended_append {texts fields : List (List Char)}
    (h : List.Forall₂ Holds texts fields) (rest : List Char) :
    splitChars (ended texts ++ rest) = (splitChars rest).map (fields ++ ·) := by
  induction h with
  | nil =>
      rw [ended, List.flatMap_nil, List.nil_append]
      cases splitChars rest <;> rfl
  | @cons text field texts fields hfield _ ih =>
      have hline : ended (text :: texts) ++ rest = text ++ ';' :: (ended texts ++ rest) := by
        simp [ended]
      rw [hline, splitChars_of_more (hfield.takeField_more _), ih]
      cases splitChars rest <;> rfl

/-- **Every line is some whole fields and then a last one or one at fault.** -/
lemma exists_ended_append (line : List Char) :
    ∃ texts fields rest, List.Forall₂ Holds texts fields ∧ line = ended texts ++ rest ∧
      ((∃ field, Holds rest field) ∨ ∃ fault, Breaks rest fault) := by
  induction hlength : line.length using Nat.strongRecOn generalizing line with
  | ind n ih =>
      obtain ⟨r, hr⟩ : ∃ r, FieldRead line r := ⟨_, takeField_eq_iff.mp rfl⟩
      cases hr with
      | @last _ field hfield => exact ⟨[], [], line, .nil, rfl, .inl ⟨field, hfield⟩⟩
      | fault hfault => exact ⟨[], [], line, .nil, rfl, .inr ⟨_, hfault⟩⟩
      | @more text field rest hfield =>
          have hshort : rest.length < n := by
            rw [← hlength, List.length_append, List.length_cons]
            omega
          obtain ⟨texts, fields, last, htexts, rfl, hlast⟩ := ih _ hshort rest rfl
          exact ⟨text :: texts, field :: fields, last, .cons hfield htexts, by simp [ended], hlast⟩

/-- **A line is no record** exactly when some whole fields are followed by one at fault, which is
the fault that is reported. -/
lemma splitChars_eq_error_iff {line : List Char} {fault : Fault} :
    splitChars line = .error fault ↔ ∃ texts fields rest, List.Forall₂ Holds texts fields ∧
      line = ended texts ++ rest ∧ Breaks rest fault := by
  constructor
  · intro h
    obtain ⟨texts, fields, rest, htexts, rfl, ⟨field, hfield⟩ | ⟨fault', hfault⟩⟩ :=
      exists_ended_append line
    · rw [splitChars_ended_append htexts, splitChars_of_last hfield.takeField_last] at h
      cases h
    · have herror := splitChars_of_fault hfault.takeField_eq
      rw [splitChars_ended_append htexts, herror] at h
      cases h
      exact ⟨texts, fields, rest, htexts, rfl, hfault⟩
  · rintro ⟨texts, fields, rest, htexts, rfl, hfault⟩
    rw [splitChars_ended_append htexts, splitChars_of_fault hfault.takeField_eq]
    rfl

/-- Fields with semicolons between them: all but the last one have their semicolon. -/
lemma intercalate_concat (texts : List (List Char)) (last : List Char) :
    [';'].intercalate (texts ++ [last]) = ended texts ++ last := by
  induction texts with
  | nil => exact List.intercalate_singleton
  | cons text texts ih =>
      rw [List.cons_append, List.intercalate_cons_of_ne_nil (by simp), ih]
      simp [ended]

/-- **A line is a record** exactly when it is whole fields with semicolons between them. -/
lemma splitChars_eq_ok_iff {line : List Char} {fields : List (List Char)} :
    splitChars line = .ok fields ↔
      ∃ texts, texts ≠ [] ∧ line = [';'].intercalate texts ∧ List.Forall₂ Holds texts fields := by
  constructor
  · intro h
    obtain ⟨texts, before, rest, htexts, rfl, ⟨field, hfield⟩ | ⟨fault, hfault⟩⟩ :=
      exists_ended_append line
    · rw [splitChars_ended_append htexts, splitChars_of_last hfield.takeField_last] at h
      cases h
      exact ⟨texts ++ [rest], by simp, (intercalate_concat texts rest).symm,
        List.rel_append htexts (.cons hfield .nil)⟩
    · rw [splitChars_ended_append htexts, splitChars_of_fault hfault.takeField_eq] at h
      cases h
  · rintro ⟨texts, hne, rfl, htexts⟩
    induction htexts with
    | nil => exact absurd rfl hne
    | @cons text field texts fields hfield hrest ih =>
        by_cases hnil : texts = []
        · subst hnil
          cases hrest
          rw [List.intercalate_singleton, splitChars_of_last hfield.takeField_last]
        · rw [List.intercalate_cons_of_ne_nil hnil, List.append_assoc, List.singleton_append,
            splitChars_of_more (hfield.takeField_more _), ih hnil]
          rfl

lemma split_eq_error_iff {line : List Char} {fault : Fault} :
    split line = .error fault ↔ ∃ texts fields rest, List.Forall₂ Holds texts fields ∧
      line = ended texts ++ rest ∧ Breaks rest fault :=
  Except.map_eq_error_iff.trans splitChars_eq_error_iff

/-- A record has a field. -/
lemma ne_nil_of_split {line : List Char} {fields : List String} (h : split line = .ok fields) :
    fields ≠ [] := by
  obtain ⟨parts, hparts, rfl⟩ := Except.map_eq_ok_iff.mp h
  obtain ⟨texts, hne, -, htexts⟩ := splitChars_eq_ok_iff.mp hparts
  cases htexts with
  | nil => exact absurd rfl hne
  | cons => exact List.cons_ne_nil _ _

/-- **Every spelling of a record is read back.** -/
lemma split_intercalate {fields : List String} {texts : List (List Char)} (hne : fields ≠ [])
    (h : List.Forall₂ Spells fields texts) : split ([';'].intercalate texts) = .ok fields := by
  have hholds : List.Forall₂ Holds texts (fields.map String.toList) :=
    List.forall₂_map_right_iff.mpr (h.flip.imp fun _ _ => Spells.holds)
  have htexts : texts ≠ [] := by
    rintro rfl
    cases h
    exact hne rfl
  rw [split, splitChars_eq_ok_iff.mpr ⟨texts, htexts, rfl, hholds⟩, Except.map_ok_eq, List.map_map]
  exact congrArg _ (List.map_id'' (fun _ => String.ofList_toList) fields)

/-- **Reading a record undoes every way of writing it.**  Fields are read back as they were, each of
them written between quotes or plainly, and with spaces and tabs on either side.  Reading fails
exactly when, after some whole fields, there is one that starts with a quote and either is not
closed or is followed by something else than a semicolon; the fault says which.  And whatever is
read of a line is read again when all of it is written between quotes. -/
theorem split_spelled :
    (∀ fields texts, fields ≠ [] → List.Forall₂ Spells fields texts →
      split ([';'].intercalate texts) = .ok fields) ∧
    (∀ line fault, split line = .error fault ↔ ∃ texts fields rest,
      List.Forall₂ Holds texts fields ∧ line = ended texts ++ rest ∧ Breaks rest fault) ∧
    ∀ line fields, split line = .ok fields → split (Record.line fields) = .ok fields :=
  ⟨fun _ _ => split_intercalate, fun _ _ => split_eq_error_iff,
    fun _ _ h => split_line (ne_nil_of_split h)⟩

/-- Quotes and separators within a field, an empty field in both ways and blanks around fields; a
no-break space after a closing quote, which is no blank of a record; and a plain field that starts
with a quote once the no-break space before it is trimmed. -/
theorem split_spelled_blanks :
    split " \"say \"\"hi\"\"\"\t;;a\"b \t;\"\";\t\";\"".toList
        = .ok ["say \"hi\"", "", "a\"b", "", ";"] ∧
      split "a;\t\"b\" \u00a0;c".toList = .error (.afterQuote '\u00a0') ∧
      split (Record.line ["\"x", ""]) = .ok ["\"x", ""] := by
  obtain ⟨hread, hfault, hquoted⟩ := split_spelled
  refine ⟨?_, ?_, ?_⟩
  · refine hread _ [" \"say \"\"hi\"\"\"\t".toList, [], "a\"b \t".toList, "\"\"".toList,
      "\t\";\"".toList] (by decide) ?_
    refine .cons ?_ (.cons ?_ (.cons ?_ (.cons ?_ (.cons ?_ .nil))))
    · exact @Spells.quoted _ [' '] ['\t'] (by decide) (by decide)
    · exact @Spells.plain "" [] [] (by decide) (by decide) (by decide) (by decide) (by decide)
    · exact @Spells.plain "a\"b" [] [' ', '\t'] (by decide) (by decide) (by decide) (by decide)
        (by decide)
    · exact @Spells.quoted _ [] [] (by decide) (by decide)
    · exact @Spells.quoted _ ['\t'] [] (by decide) (by decide)
  · have hplain : Holds ['a'] (trim ['a']) := .plain (by decide) (by rintro ⟨_, h⟩; cases h)
    refine (hfault _ _).mpr ⟨[['a']], _, "\t\"b\" \u00a0;c".toList, .cons hplain .nil, rfl, ?_⟩
    exact @Breaks.afterQuote ['\t'] ['b'] [' '] [';', 'c'] '\u00a0' (by decide) (by decide)
      (by decide) (by decide) (by decide)
  · exact hquoted "\u00a0\"x; ".toList _ (Except.toOption_eq_some_iff.mp (by decide +kernel))

end RadarConform.Record
