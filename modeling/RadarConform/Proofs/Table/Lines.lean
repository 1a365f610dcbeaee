import Mathlib.Data.List.ProdSigma
import RadarConform.Proofs.Text.Pieces
import RadarConform.Table.Reader

/-!
# The lines of a table

A text is some lines, each of them ended by a line feed with or without a carriage return before it;
the last line may be ended by the text.  Of these lines, a table consists of those that are neither
blank nor comments, and what is kept of the others is that they are counted.

* `TextOf`, `linesOf_eq_iff` — **the lines of a text**.
* `Skipped`, `RecordsOf` — lines that say nothing, and the records with the numbers of their lines;
  `recordsOf_recordLines`: these are the lines that a table is read from.
* `Interspersed` — further lines that say nothing among the lines, and byte order marks before them;
  `recordLines_of_interspersed`: **only the numbers of the records change**, by the number of lines
  that stand before them.
-/

namespace RadarConform

/-! ## The lines of a text -/

/-- The ends of a line.  A carriage return at the end of the line itself is only kept before another
one. -/
inductive EndsLine (line : List Char) : List Char → Prop
  | feed : line.getLast? ≠ some '\r' → EndsLine line ['\n']
  | returnFeed : EndsLine line ['\r', '\n']

/-- A text of some lines. -/
inductive TextOf : List (List Char) → List Char → Prop
  | none : TextOf [] []
  | last {line : List Char} : '\n' ∉ line → line ≠ [] → TextOf [line] line
  | more {line ending text : List Char} {lines : List (List Char)} : '\n' ∉ line →
      EndsLine line ending → TextOf lines text → TextOf (line :: lines) (line ++ ending ++ text)

lemma linesOf_of_free {line : List Char} (h : '\n' ∉ line) (hne : line ≠ []) :
    linesOf line = [line] := by
  rw [linesOf, Text.pieces_of_free (Text.free_of_notMem h)]
  simp [hne]

/-- A line feed ends a line. -/
lemma linesOf_append_feed {line : List Char} (h : '\n' ∉ line) (text : List Char) :
    linesOf (line ++ '\n' :: text) = dropReturn line :: linesOf text := by
  obtain ⟨init, last, hpieces⟩ :=
    (List.eq_nil_or_concat (Text.pieces (· == '\n') text)).resolve_left (Text.pieces_ne_nil _ _)
  rw [linesOf, linesOf, Text.pieces_append (by decide), Text.pieces_of_free (Text.free_of_notMem h),
    hpieces, List.concat_eq_append, List.singleton_append, ← List.cons_append,
    List.dropLast_concat, List.dropLast_concat, List.getLast?_concat, List.getLast?_concat]
  rfl

lemma dropReturn_eq_self {line : List Char} (h : line.getLast? ≠ some '\r') :
    dropReturn line = line :=
  if_neg h

lemma dropReturn_append (line : List Char) : dropReturn (line ++ ['\r']) = line := by
  rw [dropReturn, if_pos List.getLast?_concat, List.dropLast_concat]

lemma TextOf.linesOf_eq {lines : List (List Char)} {text : List Char} (h : TextOf lines text) :
    linesOf text = lines := by
  induction h with
  | none => rfl
  | last hfeed hne => exact linesOf_of_free hfeed hne
  | @more line ending text lines hfeed hending _ ih =>
      cases hending with
      | feed hreturn =>
          rw [List.append_assoc, List.singleton_append, linesOf_append_feed hfeed, ih,
            dropReturn_eq_self hreturn]
      | returnFeed =>
          have hline : '\n' ∉ line ++ ['\r'] := by simp [hfeed]
          rw [List.append_cons line '\r' ['\n'], List.append_assoc, List.singleton_append,
            linesOf_append_feed hline, ih, dropReturn_append]

/-- Every text is that of its lines. -/
lemma textOf_linesOf (text : List Char) : TextOf (linesOf text) text := by
  induction hlength : text.length using Nat.strongRecOn generalizing text with
  | ind n ih =>
      by_cases hfeed : '\n' ∈ text
      · obtain ⟨line, rest, rfl, hline⟩ := List.eq_append_cons_of_mem hfeed
        have hrest : TextOf (linesOf rest) rest := by
          refine ih rest.length ?_ rest rfl
          rw [← hlength, List.length_append, List.length_cons]
          omega
        rw [linesOf_append_feed hline]
        by_cases hreturn : line.getLast? = some '\r'
        · obtain ⟨init, rfl⟩ := List.getLast?_eq_some_iff.mp hreturn
          have hinit : '\n' ∉ init := fun hmem => hline (List.mem_append_left _ hmem)
          rw [dropReturn_append]
          simpa using TextOf.more hinit .returnFeed hrest
        · rw [dropReturn_eq_self hreturn]
          simpa using TextOf.more hline (.feed hreturn) hrest
      · by_cases hne : text = []
        · subst hne
          exact .none
        · rw [linesOf_of_free hfeed hne]
          exact .last hfeed hne

/-- **The lines of a text** are those that the text is made of. -/
lemma linesOf_eq_iff {text : List Char} {lines : List (List Char)} :
    linesOf text = lines ↔ TextOf lines text := by
  constructor
  · rintro rfl
    exact textOf_linesOf text
  · exact TextOf.linesOf_eq

/-! ## Records -/

/-- A line that says nothing: apart from byte order marks at its start, it is blank or a comment. -/
def Skipped (line : List Char) : Prop :=
  Text.trim (dropMarks line) = [] ∨ (Text.trim (dropMarks line)).head? = some '#'

instance (line : List Char) : Decidable (Skipped line) := inferInstanceAs (Decidable (_ ∨ _))

lemma isRecord_dropMarks_eq_true_iff {line : List Char} :
    isRecord (dropMarks line) = true ↔ ¬ Skipped line := by
  rw [isRecord, Skipped]
  cases Text.trim (dropMarks line) with
  | nil => simp
  | cons c cs => simp

/-- The records among some lines, without the byte order marks before them, and the numbers of their
lines, which are counted from 1. -/
structure RecordsOf (lines : List (List Char)) (records : List (Nat × List Char)) : Prop where
  ordered : records.Pairwise (·.1 < ·.1)
  mem_iff : ∀ n record, (n, record) ∈ records ↔
    ∃ line, 0 < n ∧ lines[n - 1]? = some line ∧ ¬ Skipped line ∧ dropMarks line = record

/-- The records among some lines, numbered from any number on. -/
def recordsFrom (n : Nat) (lines : List (List Char)) : List (Nat × List Char) :=
  (numberedFrom n (lines.map dropMarks)).filter (isRecord ·.2)

lemma recordLines_eq (text : String) : recordLines text = recordsFrom 1 (linesOf text.toList) := rfl

lemma numberedFrom_eq (n : Nat) (lines : List (List Char)) :
    numberedFrom n lines = (lines.zipIdx n).map Prod.swap := by
  induction lines generalizing n with
  | nil => rfl
  | cons line rest ih => rw [numberedFrom, List.zipIdx_cons, List.map_cons, ih]; rfl

lemma recordsFrom_cons (n : Nat) (line : List Char) (lines : List (List Char)) :
    recordsFrom n (line :: lines) =
      if isRecord (dropMarks line) then (n, dropMarks line) :: recordsFrom (n + 1) lines
      else recordsFrom (n + 1) lines := by
  rw [recordsFrom, List.map_cons, numberedFrom, List.filter_cons]
  rfl

lemma mem_recordsFrom_iff {n k : Nat} {lines : List (List Char)} {record : List Char} :
    (k, record) ∈ recordsFrom n lines ↔
      ∃ line, n ≤ k ∧ lines[k - n]? = some line ∧ ¬ Skipped line ∧ dropMarks line = record := by
  rw [recordsFrom, List.mem_filter, numberedFrom_eq, List.mem_map_swap,
    List.mk_mem_zipIdx_iff_le_and_getElem?_sub, List.getElem?_map, Option.map_eq_some_iff]
  constructor
  · rintro ⟨⟨hle, line, hline, rfl⟩, hrecord⟩
    exact ⟨line, hle, hline, isRecord_dropMarks_eq_true_iff.mp hrecord, rfl⟩
  · rintro ⟨line, hle, hline, hskipped, rfl⟩
    exact ⟨⟨hle, line, hline, rfl⟩, isRecord_dropMarks_eq_true_iff.mpr hskipped⟩

lemma pairwise_numberedFrom (n : Nat) (lines : List (List Char)) :
    (numberedFrom n lines).Pairwise (·.1 < ·.1) := by
  have hnumbers : (numberedFrom n lines).map Prod.fst = List.range' n lines.length := by
    rw [numberedFrom_eq, List.map_map]
    exact List.zipIdx_map_snd n lines
  have hpairwise := List.pairwise_lt_range' (s := n) (n := lines.length)
  rwa [← hnumbers, List.pairwise_map] at hpairwise

/-- **A table is read from the records among its lines**, with their numbers. -/
lemma recordsOf_recordLines (text : String) :
    RecordsOf (linesOf text.toList) (recordLines text) where
  ordered := by
    rw [recordLines_eq]
    exact (pairwise_numberedFrom _ _).filter _
  mem_iff n record := by
    rw [recordLines_eq]
    exact mem_recordsFrom_iff

/-! ## Further lines -/

/-- A run of byte order marks. -/
def Marks (cs : List Char) : Prop := ∀ c ∈ cs, c = '\ufeff'

instance (cs : List Char) : Decidable (Marks cs) := List.decidableBAll _ cs

/-- Some lines among further ones that say nothing, and after further byte order marks.  The numbers
are those of the further lines directly before each line. -/
inductive Interspersed : List Nat → List (List Char) → List (List Char) → Prop
  | last {more : List (List Char)} : (∀ line ∈ more, Skipped line) → Interspersed [] [] more
  | line {more lines lines' : List (List Char)} {line marks : List Char} {gaps : List Nat} :
      (∀ line ∈ more, Skipped line) → Marks marks → Interspersed gaps lines lines' →
      Interspersed (more.length :: gaps) (line :: lines) (more ++ (marks ++ line) :: lines')

/-- The number of further lines before a line, which is counted from 1. -/
def moreBefore : List Nat → Nat → Nat
  | gap :: gaps, n + 1 => gap + moreBefore gaps n
  | _, _ => 0

lemma moreBefore_zero (gaps : List Nat) : moreBefore gaps 0 = 0 := by
  cases gaps with
  | nil | cons => rfl

/-- The number of a line among further ones. -/
def shifted (gaps : List Nat) (n : Nat) : Nat := n + moreBefore gaps n

lemma dropMarks_append {marks : List Char} (h : Marks marks) (line : List Char) :
    dropMarks (marks ++ line) = dropMarks line :=
  List.dropWhile_append_of_pos fun c hc => by simp [h c hc]

lemma recordsFrom_skipped_append {more : List (List Char)} (h : ∀ line ∈ more, Skipped line)
    (n : Nat) (lines : List (List Char)) :
    recordsFrom n (more ++ lines) = recordsFrom (n + more.length) lines := by
  induction more generalizing n with
  | nil => rfl
  | cons line more ih =>
      obtain ⟨hline, hmore⟩ := List.forall_mem_cons.mp h
      have hrecord : ¬ isRecord (dropMarks line) = true :=
        fun heq => isRecord_dropMarks_eq_true_iff.mp heq hline
      rw [List.cons_append, recordsFrom_cons, if_neg hrecord, ih hmore, List.length_cons,
        Nat.add_assoc, Nat.add_comm 1]

/-- What further lines do to records that are numbered from any number on, if there were `d` of them
before. -/
lemma recordsFrom_of_interspersed {gaps : List Nat} {lines lines' : List (List Char)}
    (h : Interspersed gaps lines lines') (n d : Nat) :
    recordsFrom (n + d) lines' =
      (recordsFrom n lines).map fun r => (r.1 + d + moreBefore gaps (r.1 + 1 - n), r.2) := by
  induction h generalizing n d with
  | @last more hmore =>
      rw [← List.append_nil more, recordsFrom_skipped_append hmore]
      rfl
  | @line more lines lines' line marks gaps hmore hmarks _ ih =>
      -- After this line there have been `d + more.length` further ones.
      have htail : recordsFrom (n + d + more.length + 1) lines' =
          (recordsFrom (n + 1) lines).map fun r =>
            (r.1 + d + moreBefore (more.length :: gaps) (r.1 + 1 - n), r.2) := by
        have hstart : n + d + more.length + 1 = n + 1 + (d + more.length) := by omega
        rw [hstart, ih]
        refine List.map_congr_left fun r hmem => ?_
        obtain ⟨_, hle, -⟩ := mem_recordsFrom_iff.mp hmem
        have hnext : r.1 + 1 - n = (r.1 + 1 - (n + 1)) + 1 := by omega
        rw [hnext, moreBefore]
        exact Prod.ext (by simp only; omega) rfl
      rw [recordsFrom_skipped_append hmore, recordsFrom_cons, recordsFrom_cons,
        dropMarks_append hmarks, htail]
      split
      · simp [moreBefore, moreBefore_zero]
      · rfl

/-- **Further lines change the numbers of the records and nothing else.** -/
lemma recordLines_of_interspersed {gaps : List Nat} {text text' : String}
    (h : Interspersed gaps (linesOf text.toList) (linesOf text'.toList)) :
    recordLines text' = (recordLines text).map fun r => (shifted gaps r.1, r.2) := by
  rw [recordLines_eq, recordLines_eq]
  exact recordsFrom_of_interspersed h 1 0

end RadarConform
