import RadarConform.Text.Blank
import RadarConform.Text.Pieces

/-!
# Records

A line of a table is a record: fields with semicolons between them.  A field may stand between
quotes, in which a quote is written twice; otherwise it is taken without the white space around
it.

* `Record.split`: the fields of a line.
* `Record.takeQuoted`: a quoted field.
-/

namespace RadarConform.Record

/-- Why a line is not a record. -/
inductive Fault where
  /-- A character follows the closing quote of a field. -/
  | afterQuote (c : Char)
  | unterminated
deriving DecidableEq

/-- A quoted field, from after its opening quote: what it holds and what follows its closing
quote. -/
def takeQuoted : List Char → Option (List Char × List Char)
  | [] => none
  | '"' :: '"' :: cs => (takeQuoted cs).map fun (field, rest) => ('"' :: field, rest)
  | c :: cs =>
    if c = '"' then some ([], cs)
    else (takeQuoted cs).map fun (field, rest) => (c :: field, rest)

/-- The blanks that may stand around quotes. -/
def isPadding (c : Char) : Bool := c == ' ' || c == '\t'

/-- A text without the blanks at its start. -/
def dropPadding (cs : List Char) : List Char := cs.dropWhile isPadding

/-- The first field of a line and what follows the semicolon after it, if there is one. -/
def takeField (cs : List Char) : Except Fault (List Char × Option (List Char)) :=
  match dropPadding cs with
  | '"' :: quoted =>
    match takeQuoted quoted with
    | none => .error .unterminated
    | some (field, rest) =>
      match dropPadding rest with
      | [] => .ok (field, none)
      | c :: after => if c = ';' then .ok (field, some after) else .error (.afterQuote c)
  | plain =>
    match Text.cutOnce (· == ';') plain with
    | some (field, after) => .ok (Text.trim field, some after)
    | none => .ok (Text.trim plain, none)

theorem length_of_takeQuoted {cs field rest : List Char}
    (h : takeQuoted cs = some (field, rest)) : rest.length < cs.length := by
  fun_induction takeQuoted cs generalizing field with
  | case1 => cases h
  | case2 cs ih =>
    simp only [Option.map_eq_some_iff, Prod.mk.injEq, Prod.exists] at h
    obtain ⟨f, r, hq, _, rfl⟩ := h
    have := ih hq
    simp only [List.length_cons]
    omega
  | case3 cs => simp_all
  | case4 c cs _ _ ih =>
    simp only [Option.map_eq_some_iff, Prod.mk.injEq, Prod.exists] at h
    obtain ⟨f, r, hq, _, rfl⟩ := h
    have := ih hq
    simp only [List.length_cons]
    omega

theorem length_dropPadding_le (cs : List Char) : (dropPadding cs).length ≤ cs.length := by
  unfold dropPadding
  induction cs with
  | nil => simp
  | cons c cs ih =>
    simp only [List.dropWhile_cons]
    split
    · simp only [List.length_cons]; omega
    · simp

theorem length_of_cutOnce {sep : Char → Bool} {cs before after : List Char}
    (h : Text.cutOnce sep cs = some (before, after)) : after.length < cs.length := by
  induction cs generalizing before with
  | nil => simp [Text.cutOnce] at h
  | cons c cs ih =>
    simp only [Text.cutOnce] at h
    split at h
    · simp_all
    · simp only [Option.map_eq_some_iff, Prod.mk.injEq, Prod.exists] at h
      obtain ⟨b, a, hc, _, rfl⟩ := h
      have := ih hc
      simp only [List.length_cons]
      omega

/-- What follows a field is shorter than the line. -/
theorem length_of_takeField {cs field after : List Char}
    (h : takeField cs = .ok (field, some after)) : after.length < cs.length := by
  have hpad := length_dropPadding_le cs
  unfold takeField at h
  split at h
  · rename_i quoted hq
    rw [hq] at hpad
    simp only [List.length_cons] at hpad
    split at h
    · cases h
    · rename_i f rest hrest
      have h1 := length_of_takeQuoted hrest
      have h2 := length_dropPadding_le rest
      split at h
      · cases h
      · rename_i c more hmore
        rw [hmore] at h2
        simp only [List.length_cons] at h2
        split at h
        · simp only [Except.ok.injEq, Prod.mk.injEq, Option.some.injEq] at h
          obtain ⟨_, rfl⟩ := h
          omega
        · cases h
  · split at h
    · rename_i f more hcut
      have := length_of_cutOnce hcut
      simp only [Except.ok.injEq, Prod.mk.injEq, Option.some.injEq] at h
      obtain ⟨_, rfl⟩ := h
      omega
    · cases h

/-- The fields of a line, from left to right. -/
def splitChars (cs : List Char) : Except Fault (List (List Char)) :=
  match _field : takeField cs with
  | .error e => .error e
  | .ok (field, none) => .ok [field]
  | .ok (field, some after) => (splitChars after).map (field :: ·)
termination_by cs.length
decreasing_by exact length_of_takeField _field

/-- The fields of a line as strings. -/
def split (line : List Char) : Except Fault (List String) :=
  (splitChars line).map (·.map String.ofList)

end RadarConform.Record
