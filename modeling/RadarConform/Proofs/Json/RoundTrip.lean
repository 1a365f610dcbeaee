import RadarConform.Json.Reader
import RadarConform.Proofs.Json.Literal
import RadarConform.Proofs.Json.Numeral

/-!
# Values read back from their text

A value is written and read again.  What comes back is the structure of the value with the same
strings; a number comes back as what its own text stands for, which is the same number unless
reading rounds it to another.

* `Reading.readFrom` — the reading that a text leads to from another one.  It is the invariant of
  all that follows: **each part of a text takes the reading past itself**, whatever comes after it.
* `Json.outline` — what comes back of a value.
* `Outline.parse_compact`, `Outline.parse_pretty` — **every value comes back** from its text without
  blanks, and from the one with an item to a line.
-/

namespace RadarConform.Json

open Token

/-! ## Parts of a text -/

/-- The reading that a text leads to from another one. -/
def Reading.readFrom (r : Reading) (cs : List Char) : Option Reading := do
  (← scan cs).foldlM Reading.step r

/-- What may come directly after a number or a word: nothing that could be a part of it. -/
def Delimited (cs : List Char) : Prop :=
  ∀ c, cs.head? = some c → isNumeric c = false ∧ isLetter c = false

variable {r r' : Reading} {rest : List Char}

/-- A token takes the reading one step on. -/
lemma Reading.readFrom_token {cs : List Char} {token : Token}
    (hscan : scan cs = (scan rest).map (token :: ·)) (hstep : r.step token = some r') :
    r.readFrom cs = r'.readFrom rest := by
  simp only [readFrom, hscan]
  cases scan rest with
  | none => rfl
  | some tokens => simp [hstep]

lemma Reading.readFrom_mark (c : Char) (token : Token) (hblank : isBlank c = false)
    (hmark : mark? c = some token) (hstep : r.step token = some r') :
    r.readFrom (c :: rest) = r'.readFrom rest := by
  refine readFrom_token ?_ hstep
  rw [scan]
  simp only [hblank, hmark, Bool.false_eq_true, if_false]

lemma scan_quote {cs body : List Char} {parts : List Literal.Part}
    (htake : takeString cs = some (body, rest)) (hparts : Literal.parts? body = some parts) :
    scan ('"' :: cs) = (scan rest).map (.string (Literal.text? parts) :: ·) := by
  rw [scan]
  simp only [show isBlank '"' = false from rfl, show mark? '"' = none from rfl,
    Bool.false_eq_true, if_false, if_true]
  split
  · next hnone =>
      rw [htake] at hnone
      cases hnone
  · next hsome =>
      rw [htake] at hsome
      cases hsome
      simp only [hparts]
      cases scan rest <;> rfl

lemma Reading.readFrom_string {s : String} (hstep : r.step (.string (some s)) = some r') :
    r.readFrom ((stringText s).toList ++ rest) = r'.readFrom rest := by
  refine readFrom_token ?_ hstep
  obtain ⟨parts, hparts, hchars⟩ := Literal.exists_parts s.toList
  have htext : (stringText s).toList ++ rest
      = '"' :: (s.toList.flatMap escaped ++ '"' :: rest) := by simp [stringText]
  rw [htext, scan_quote (takeString_text s.toList rest) hparts, Literal.text?, hchars,
    Option.map_some, String.ofList_toList]

lemma Reading.readFrom_blanks {ws : List Char} (hws : ∀ c ∈ ws, isBlank c = true) :
    r.readFrom (ws ++ rest) = r.readFrom rest := by
  induction ws with
  | nil => rfl
  | cons c ws ih =>
      rw [List.forall_mem_cons] at hws
      rw [← ih hws.2]
      simp only [readFrom]
      rw [List.cons_append, scan, if_pos hws.1]

/-! ## Literals -/

/-- A number or a word, which is one token before anything that delimits it. -/
def Atomic (cs : List Char) (v : Option Json) : Prop :=
  ∀ rest, Delimited rest → scan (cs ++ rest) = (scan rest).map (.atom v :: ·)

/-- On its own it stands for its value. -/
lemma Atomic.parse_eq {cs : List Char} {v : Option Json} (h : Atomic cs v) :
    parse (.ofList cs) = v := by
  have hnil := h [] nofun
  rw [List.append_nil] at hnil
  simp [parse, hnil, scan, depth, depthFrom, Outline.ofTokens?, Reading.start, Reading.step,
    Reading.outline?, Outline.value?]

lemma Atomic.readFrom_eq {cs : List Char} {v : Option Json} (h : Atomic cs v)
    (hrest : Delimited rest) (stack : List Open) (first : Bool) :
    Reading.readFrom ⟨stack, .value first⟩ (cs ++ rest)
      = Reading.readFrom ⟨stack, .next (.atom v)⟩ rest :=
  Reading.readFrom_token (h rest hrest) rfl

/-- The characters with which neither a mark nor a string nor a word starts. -/
lemma plain_of_start {c : Char} (h : Decimal.isDigit c = true ∨ c = '-') :
    isBlank c = false ∧ mark? c = none ∧ c ≠ '"' ∧ isLetter c = false := by
  rcases h with h | rfl
  · have hplain : isBlank c = false ∧ (mark? c).isNone = true ∧ c ≠ '"' ∧ isLetter c = false :=
      Decimal.of_isDigit (by decide) h
    rwa [Option.isNone_iff_eq_none] at hplain
  · exact ⟨rfl, rfl, by decide, rfl⟩

lemma exists_atomic_of_written {cs : List Char} (h : Numeral.Written cs) : ∃ v, Atomic cs v := by
  obtain ⟨numeral, hnumeral⟩ := h.exists_ofChars?
  refine ⟨numeral.value?, fun rest hrest => ?_⟩
  have hnumeric := h.isNumeric
  obtain ⟨c, ds, rfl, hc⟩ := h.exists_cons
  obtain ⟨hblank, hmark, hquote, hletter⟩ := plain_of_start hc
  rw [List.forall_mem_cons] at hnumeric
  obtain ⟨htake, hdrop⟩ := Text.cut_run hnumeric.2 fun c hc => (hrest c hc).1
  rw [List.cons_append, scan]
  simp only [hblank, hmark, hquote, hletter, htake, hdrop, hnumeral, Bool.false_eq_true, if_false]
  cases scan rest <;> rfl

lemma atomic_word {c : Char} {cs : List Char} {v : Json} (hblank : isBlank c = false)
    (hmark : mark? c = none) (hquote : c ≠ '"') (hletters : (c :: cs).all isLetter = true)
    (hword : word? (c :: cs) = some v) : Atomic (c :: cs) (some v) := by
  intro rest hrest
  rw [List.all_cons, Bool.and_eq_true] at hletters
  obtain ⟨htake, hdrop⟩ :=
    Text.cut_run (List.all_eq_true.mp hletters.2) fun c hc => (hrest c hc).2
  rw [List.cons_append, scan]
  simp only [hblank, hmark, hquote, hletters.1, htake, hdrop, hword, Bool.false_eq_true, if_false,
    if_true]
  cases scan rest <;> rfl

lemma atomic_null : Atomic "null".toList (some .null) :=
  atomic_word rfl rfl (by decide) rfl rfl

lemma atomic_bool (b : Bool) : Atomic (if b then "true" else "false").toList (some (.bool b)) := by
  cases b with
  | true => exact atomic_word rfl rfl (by decide) rfl rfl
  | false => exact atomic_word rfl rfl (by decide) rfl rfl

/-- An integer stands for what its text is read as. -/
lemma atomic_int (n : Int) : Atomic (toString n).toList (parse (toString n)) := by
  obtain ⟨v, hv⟩ := exists_atomic_of_written (Numeral.written_int n)
  have hparse := hv.parse_eq
  rw [String.ofList_toList] at hparse
  rwa [hparse]

/-- A real number stands for what its text is read as; one that is not finite, for nothing. -/
lemma atomic_real (x : Number) : Atomic (realText x).toList (parse (realText x)) := by
  have hvalue : ∃ v, Atomic (realText x).toList v := by
    cases hfinite : x.isFinite with
    | true => exact exists_atomic_of_written (Numeral.written_realText hfinite)
    | false =>
        refine ⟨some .null, ?_⟩
        have htext : realText x = "null" := by
          cases x with
          | nan => rfl
          | signed negative rank bounded =>
              have hrank : ¬ rank < Number.infinityRank := of_decide_eq_false hfinite
              exact if_pos (by omega)
        rw [htext]
        exact atomic_null
  obtain ⟨v, hv⟩ := hvalue
  have hparse := hv.parse_eq
  rw [String.ofList_toList] at hparse
  rwa [hparse]

/-! ## What comes back -/

mutual

/-- What comes back of a value: the same structure and the same strings, and of a number what its
text is read as. -/
def outline : Json → Outline
  | null => .atom (some .null)
  | bool b => .atom (some (.bool b))
  | integer n => .atom (parse (toString n))
  | real x => .atom (parse (realText x))
  | text s => .atom (some (.text s))
  | list items => .list (itemOutlines items)
  | record entries => .record (entryOutlines entries)

/-- What comes back of items. -/
def itemOutlines : List Json → List Outline
  | [] => []
  | v :: rest => outline v :: itemOutlines rest

/-- What comes back of entries. -/
def entryOutlines : List (String × Json) → List (Option String × Outline)
  | [] => []
  | (key, v) :: rest => (some key, outline v) :: entryOutlines rest

end

lemma itemOutlines_eq (items : List Json) : itemOutlines items = items.map outline := by
  induction items with
  | nil => rfl
  | cons v rest ih => simp [itemOutlines, ih]

lemma entryOutlines_eq (entries : List (String × Json)) :
    entryOutlines entries = entries.map fun entry => (some entry.1, outline entry.2) := by
  induction entries with
  | nil => rfl
  | cons entry rest ih => simp [entryOutlines, ih]

/-- **Induction on values**, with the hypothesis for all items of a list and for the values of all
entries of a record. -/
@[elab_as_elim]
theorem nestedInduction {P : Json → Prop} (null : P .null) (bool : ∀ b, P (.bool b))
    (integer : ∀ n, P (.integer n)) (real : ∀ x, P (.real x)) (text : ∀ s, P (.text s))
    (list : ∀ items, (∀ v ∈ items, P v) → P (.list items))
    (record : ∀ entries, (∀ entry ∈ entries, P entry.2) → P (.record entries)) : ∀ v, P v
  | .null => null
  | .bool b => bool b
  | .integer n => integer n
  | .real x => real x
  | .text s => text s
  | .list items => list items fun v _ =>
      nestedInduction null bool integer real text list record v
  | .record entries => record entries fun entry _ =>
      nestedInduction null bool integer real text list record entry.2
termination_by v => v
decreasing_by
  · have hitem := List.sizeOf_lt_of_mem ‹v ∈ items›
    simp only [Json.list.sizeOf_spec]
    omega
  · have hentry := List.sizeOf_lt_of_mem ‹entry ∈ entries›
    obtain ⟨k, v⟩ := entry
    simp only [Json.record.sizeOf_spec, Prod.mk.sizeOf_spec] at hentry ⊢
    omega

/-- A text that takes a reading past a value. -/
def ReadsAs (cs : List Char) (o : Outline) : Prop :=
  ∀ rest, Delimited rest → ∀ stack first,
    Reading.readFrom ⟨stack, .value first⟩ (cs ++ rest) = Reading.readFrom ⟨stack, .next o⟩ rest

lemma Atomic.readsAs {cs : List Char} {v : Option Json} (h : Atomic cs v) :
    ReadsAs cs (.atom v) := fun _ hrest stack first => h.readFrom_eq hrest stack first

lemma readsAs_string (s : String) : ReadsAs (stringText s).toList (.atom (some (.text s))) :=
  fun _ _ _ _ => Reading.readFrom_string rfl

/-- The marks between parts delimit them. -/
lemma delimited_mark {c : Char} (hc : c = ',' ∨ c = ']' ∨ c = '}' ∨ c = '\n') (cs : List Char) :
    Delimited (c :: cs) := by
  intro d hd
  cases hd
  rcases hc with rfl | rfl | rfl | rfl
  all_goals exact ⟨rfl, rfl⟩

/-- A text is read from its start. -/
lemma Outline.parse_of_readsAs {s : String} {o : Outline} (h : ReadsAs s.toList o) :
    Outline.parse s = some o := by
  have hread := h [] nofun [] false
  have hend : Reading.readFrom ⟨[], .next o⟩ [] = some ⟨[], .next o⟩ := by
    simp [Reading.readFrom, scan]
  rw [List.append_nil, hend] at hread
  obtain ⟨tokens, htokens, hfold⟩ := Option.bind_eq_some_iff.mp hread
  rw [Outline.parse, htokens]
  exact Option.bind_eq_some_iff.mpr ⟨tokens, rfl, Option.bind_eq_some_iff.mpr ⟨_, hfold, rfl⟩⟩

/-- A key, the colon after it and a value take a reading past an entry. -/
lemma readFrom_entry {ws cs : List Char} (hws : ∀ c ∈ ws, isBlank c = true) {o : Outline}
    (h : ReadsAs cs o) (hrest : Delimited rest) (key : String) (stack : List Open)
    (before done : List (Option String × Outline)) (last : Option String) (first : Bool) :
    Reading.readFrom ⟨.record before last :: stack, .key first done⟩
        ((stringText key).toList ++ ':' :: (ws ++ (cs ++ rest)))
      = Reading.readFrom ⟨.record done (some key) :: stack, .next o⟩ rest := by
  rw [Reading.readFrom_string rfl, Reading.readFrom_mark ':' .colon rfl rfl rfl,
    Reading.readFrom_blanks hws, h _ hrest]

/-! ## Without blanks -/

section Compact

lemma readFrom_compactItems {items : List Json}
    (h : ∀ v ∈ items, ReadsAs (compact v).toList v.outline) (hne : items ≠ [])
    (stack : List Open) (done : List Outline) (first : Bool) (rest : List Char) :
    Reading.readFrom ⟨.list done :: stack, .value first⟩ ((compactItems items).toList ++ ']' :: rest)
      = Reading.readFrom (.close stack (.list (done.reverse ++ items.map outline))) rest := by
  induction items generalizing done first with
  | nil => exact absurd rfl hne
  | cons v later ih =>
      rw [List.forall_mem_cons] at h
      cases later with
      | nil =>
          rw [compactItems, h.1 _ (delimited_mark (by decide) _),
            Reading.readFrom_mark ']' .closeList rfl rfl rfl]
          simp
      | cons w later =>
          have htext : (compactItems (v :: w :: later)).toList ++ ']' :: rest
              = (compact v).toList
                ++ (',' :: ((compactItems (w :: later)).toList ++ ']' :: rest)) := by
            simp [compactItems]
          rw [htext, h.1 _ (delimited_mark (by decide) _),
            Reading.readFrom_mark ',' .comma rfl rfl rfl, ih h.2 (List.cons_ne_nil w later)]
          simp

lemma readFrom_compactEntries {entries : List (String × Json)}
    (h : ∀ entry ∈ entries, ReadsAs (compact entry.2).toList entry.2.outline) (hne : entries ≠ [])
    (stack : List Open) (before done : List (Option String × Outline)) (last : Option String)
    (first : Bool) (rest : List Char) :
    Reading.readFrom ⟨.record before last :: stack, .key first done⟩
        ((compactEntries entries).toList ++ '}' :: rest)
      = Reading.readFrom (.close stack (.record
          (done.reverse ++ entries.map fun entry => (some entry.1, entry.2.outline)))) rest := by
  induction entries generalizing before done last first with
  | nil => exact absurd rfl hne
  | cons entry later ih =>
      obtain ⟨key, v⟩ := entry
      rw [List.forall_mem_cons] at h
      cases later with
      | nil =>
          have htext : (compactEntries [(key, v)]).toList ++ '}' :: rest
              = (stringText key).toList ++ ':' :: ([] ++ ((compact v).toList ++ '}' :: rest)) := by
            simp [compactEntries]
          rw [htext, readFrom_entry (List.forall_mem_nil _) h.1 (delimited_mark (by decide) _),
            Reading.readFrom_mark '}' .closeRecord rfl rfl rfl]
          simp
      | cons next later =>
          have htext : (compactEntries ((key, v) :: next :: later)).toList ++ '}' :: rest
              = (stringText key).toList ++ ':' :: ([] ++ ((compact v).toList
                ++ (',' :: ((compactEntries (next :: later)).toList ++ '}' :: rest)))) := by
            simp [compactEntries]
          rw [htext, readFrom_entry (List.forall_mem_nil _) h.1 (delimited_mark (by decide) _),
            Reading.readFrom_mark ',' .comma rfl rfl rfl, ih h.2 (List.cons_ne_nil next later)]
          simp

/-- **Every value comes back from its text without blanks.** -/
lemma readsAs_compact (v : Json) : ReadsAs (compact v).toList v.outline := by
  induction v using nestedInduction with
  | null => exact atomic_null.readsAs
  | bool b => exact (atomic_bool b).readsAs
  | integer n => exact (atomic_int n).readsAs
  | real x => exact (atomic_real x).readsAs
  | text s => exact readsAs_string s
  | list items ih =>
      intro rest _ stack first
      have htext : (compact (.list items)).toList ++ rest
          = '[' :: ((compactItems items).toList ++ ']' :: rest) := by simp [compact]
      rw [htext, outline, itemOutlines_eq, Reading.readFrom_mark '[' .openList rfl rfl rfl]
      cases items with
      | nil => exact Reading.readFrom_mark ']' .closeList rfl rfl rfl
      | cons v later => exact readFrom_compactItems ih (List.cons_ne_nil v later) stack [] true rest
  | record entries ih =>
      intro rest _ stack first
      have htext : (compact (.record entries)).toList ++ rest
          = '{' :: ((compactEntries entries).toList ++ '}' :: rest) := by simp [compact]
      rw [htext, outline, entryOutlines_eq, Reading.readFrom_mark '{' .openRecord rfl rfl rfl]
      cases entries with
      | nil => exact Reading.readFrom_mark '}' .closeRecord rfl rfl rfl
      | cons entry later =>
          exact readFrom_compactEntries ih (List.cons_ne_nil entry later) stack [] [] none true rest

end Compact

/-! ## With an item to a line -/

section Pretty

lemma isBlank_of_mem_newline {depth : Nat} : ∀ c ∈ (newline depth).toList, isBlank c = true := by
  intro c hc
  simp only [newline, String.toList_append, String.toList_ofList, List.mem_append,
    List.mem_replicate] at hc
  rcases hc with hc | ⟨-, rfl⟩
  · rw [List.mem_singleton.mp hc]
    rfl
  · rfl

/-- A new line delimits what comes before it. -/
lemma delimited_newline (depth : Nat) (cs : List Char) :
    Delimited ((newline depth).toList ++ cs) := by
  have htext : (newline depth).toList ++ cs = '\n' :: (List.replicate (2 * depth) ' ' ++ cs) := by
    simp [newline]
  rw [htext]
  exact delimited_mark (by decide) _

/-- The end of a list or record stands on a line of its own. -/
lemma readFrom_newline (r : Reading) (depth : Nat) (cs : List Char) :
    r.readFrom ((newline depth).toList ++ cs) = r.readFrom cs :=
  Reading.readFrom_blanks isBlank_of_mem_newline

/-- Items are delimited by the comma before the next one, or by the new line at the end. -/
lemma delimited_prettyItems (items : List Json) (depth outer : Nat) (cs : List Char) :
    Delimited ((prettyItems depth items).toList ++ ((newline outer).toList ++ cs)) := by
  cases items with
  | nil => simpa [prettyItems] using delimited_newline outer cs
  | cons v later =>
      simp only [prettyItems, String.toList_append, List.append_assoc]
      exact delimited_mark (by decide) _

lemma delimited_prettyEntries (entries : List (String × Json)) (depth outer : Nat)
    (cs : List Char) :
    Delimited ((prettyEntries depth entries).toList ++ ((newline outer).toList ++ cs)) := by
  cases entries with
  | nil => simpa [prettyEntries] using delimited_newline outer cs
  | cons entry later =>
      simp only [prettyEntries, String.toList_append, List.append_assoc]
      exact delimited_mark (by decide) _

lemma readFrom_prettyItems {items : List Json} {depth : Nat}
    (h : ∀ v ∈ items, ReadsAs (prettyAt depth v).toList v.outline) (outer : Nat)
    (stack : List Open) (done : List Outline) (o : Outline) (rest : List Char) :
    Reading.readFrom ⟨.list done :: stack, .next o⟩
        ((prettyItems depth items).toList ++ ((newline outer).toList ++ ']' :: rest))
      = Reading.readFrom (.close stack (.list ((o :: done).reverse ++ items.map outline))) rest := by
  induction items generalizing done o with
  | nil =>
      have htext : (prettyItems depth []).toList = [] := by simp [prettyItems]
      rw [htext, List.nil_append, readFrom_newline, Reading.readFrom_mark ']' .closeList rfl rfl rfl]
      simp
  | cons v later ih =>
      rw [List.forall_mem_cons] at h
      have htext : (prettyItems depth (v :: later)).toList
          = ',' :: ((newline depth).toList ++ ((prettyAt depth v).toList
            ++ (prettyItems depth later).toList)) := by simp [prettyItems]
      rw [htext, List.cons_append, List.append_assoc, List.append_assoc,
        Reading.readFrom_mark ',' .comma rfl rfl rfl, readFrom_newline,
        h.1 _ (delimited_prettyItems later depth outer _), ih h.2]
      simp

lemma isBlank_of_mem_space : ∀ c ∈ [' '], isBlank c = true := List.forall_mem_singleton.mpr rfl

lemma readFrom_prettyEntries {entries : List (String × Json)} {depth : Nat}
    (h : ∀ entry ∈ entries, ReadsAs (prettyAt depth entry.2).toList entry.2.outline) (outer : Nat)
    (stack : List Open) (done : List (Option String × Outline)) (key : Option String) (o : Outline)
    (rest : List Char) :
    Reading.readFrom ⟨.record done key :: stack, .next o⟩
        ((prettyEntries depth entries).toList ++ ((newline outer).toList ++ '}' :: rest))
      = Reading.readFrom (.close stack (.record (((key, o) :: done).reverse
          ++ entries.map fun entry => (some entry.1, entry.2.outline)))) rest := by
  induction entries generalizing done key o with
  | nil =>
      have htext : (prettyEntries depth []).toList = [] := by simp [prettyEntries]
      rw [htext, List.nil_append, readFrom_newline,
        Reading.readFrom_mark '}' .closeRecord rfl rfl rfl]
      simp
  | cons entry later ih =>
      obtain ⟨k, v⟩ := entry
      rw [List.forall_mem_cons] at h
      have htext : (prettyEntries depth ((k, v) :: later)).toList
            ++ ((newline outer).toList ++ '}' :: rest)
          = ',' :: ((newline depth).toList ++ ((stringText k).toList ++ ':' :: ([' ']
            ++ ((prettyAt depth v).toList ++ ((prettyEntries depth later).toList
              ++ ((newline outer).toList ++ '}' :: rest)))))) := by simp [prettyEntries]
      rw [htext, Reading.readFrom_mark ',' .comma rfl rfl rfl, readFrom_newline,
        readFrom_entry isBlank_of_mem_space h.1 (delimited_prettyEntries later depth outer _),
        ih h.2]
      simp

/-- **Every value comes back from its text with an item to a line.** -/
lemma readsAs_prettyAt (v : Json) : ∀ depth, ReadsAs (prettyAt depth v).toList v.outline := by
  induction v using nestedInduction with
  | null => exact fun _ => atomic_null.readsAs
  | bool b => exact fun _ => (atomic_bool b).readsAs
  | integer n => exact fun _ => (atomic_int n).readsAs
  | real x => exact fun _ => (atomic_real x).readsAs
  | text s => exact fun _ => readsAs_string s
  | list items ih =>
      intro depth rest _ stack first
      rw [outline, itemOutlines_eq]
      cases items with
      | nil =>
          have htext : (prettyAt depth (.list [])).toList ++ rest = '[' :: ']' :: rest := by
            simp [prettyAt]
          rw [htext, Reading.readFrom_mark '[' .openList rfl rfl rfl]
          exact Reading.readFrom_mark ']' .closeList rfl rfl rfl
      | cons v later =>
          rw [List.forall_mem_cons] at ih
          have htext : (prettyAt depth (.list (v :: later))).toList ++ rest
              = '[' :: ((newline (depth + 1)).toList ++ ((prettyAt (depth + 1) v).toList
                ++ ((prettyItems (depth + 1) later).toList
                  ++ ((newline depth).toList ++ ']' :: rest)))) := by simp [prettyAt]
          rw [htext, Reading.readFrom_mark '[' .openList rfl rfl rfl, readFrom_newline,
            ih.1 _ _ (delimited_prettyItems later _ depth _),
            readFrom_prettyItems (fun w hw => ih.2 w hw _)]
          simp [Reading.close]
  | record entries ih =>
      intro depth rest _ stack first
      rw [outline, entryOutlines_eq]
      cases entries with
      | nil =>
          have htext : (prettyAt depth (.record [])).toList ++ rest = '{' :: '}' :: rest := by
            simp [prettyAt]
          rw [htext, Reading.readFrom_mark '{' .openRecord rfl rfl rfl]
          exact Reading.readFrom_mark '}' .closeRecord rfl rfl rfl
      | cons entry later =>
          obtain ⟨key, v⟩ := entry
          rw [List.forall_mem_cons] at ih
          have htext : (prettyAt depth (.record ((key, v) :: later))).toList ++ rest
              = '{' :: ((newline (depth + 1)).toList ++ ((stringText key).toList ++ ':' :: ([' ']
                ++ ((prettyAt (depth + 1) v).toList ++ ((prettyEntries (depth + 1) later).toList
                  ++ ((newline depth).toList ++ '}' :: rest)))))) := by simp [prettyAt]
          rw [htext, Reading.readFrom_mark '{' .openRecord rfl rfl rfl, readFrom_newline,
            readFrom_entry isBlank_of_mem_space (ih.1 _) (delimited_prettyEntries later _ depth _),
            readFrom_prettyEntries (fun w hw => ih.2 w hw _)]
          simp [Reading.close]

end Pretty

/-! ## Texts -/

/-- **Every value comes back** from its text, whichever of the two forms it is written in. -/
lemma Outline.parse_compact (v : Json) : Outline.parse v.compact = some v.outline :=
  Outline.parse_of_readsAs (readsAs_compact v)

lemma Outline.parse_pretty (v : Json) : Outline.parse v.pretty = some v.outline :=
  Outline.parse_of_readsAs (readsAs_prettyAt v 0)

end RadarConform.Json
