/-!
# Cutting text at separators

The notations read here (locations, versions, records, paths, chains of clauses) all cut a text at a
character or at a short token.  The pieces and the separators between them always give the text
back, and no piece of `pieces` holds a separator.

* `pieces`: all pieces between the characters of a class.
* `cutOnce`: the text before and after the first character of a class.
* `cutAt`: the text before and after the first occurrence of a token.
* `piecesAt`: all pieces between the occurrences of a token, found from left to right.
-/

namespace RadarConform.Text

variable {α : Type}

/-- The pieces of a text between the characters for which `sep` holds; always at least one. -/
def pieces (sep : α → Bool) : List α → List (List α)
  | [] => [[]]
  | c :: cs =>
    if sep c then [] :: pieces sep cs
    else
      match pieces sep cs with
      | [] => [[c]]
      | p :: ps => (c :: p) :: ps

/-- The text before and after the first character for which `sep` holds. -/
def cutOnce (sep : α → Bool) : List α → Option (List α × List α)
  | [] => none
  | c :: cs =>
    if sep c then some ([], cs)
    else (cutOnce sep cs).map fun (before, after) => (c :: before, after)

/-- The text after `token`, when the text starts with it. -/
def dropToken? : (token text : List Char) → Option (List Char)
  | [], cs => some cs
  | _ :: _, [] => none
  | t :: ts, c :: cs => if t = c then dropToken? ts cs else none

/-- The text before and after the first occurrence of `token`. -/
def cutAt (token : List Char) : List Char → Option (List Char × List Char)
  | [] => if token = [] then some ([], []) else none
  | c :: cs =>
    match dropToken? token (c :: cs) with
    | some after => some ([], after)
    | none => (cutAt token cs).map fun (before, after) => (c :: before, after)

/-- Whether `token` occurs in the text. -/
def holds (token text : List Char) : Bool := (cutAt token text).isSome

/-- What is left after dropping a non-empty token is shorter than the text. -/
theorem length_of_dropToken? {token text rest : List Char}
    (h : dropToken? token text = some rest) : rest.length + token.length = text.length := by
  induction token generalizing text with
  | nil => simp_all [dropToken?]
  | cons t ts ih =>
    cases text with
    | nil => simp [dropToken?] at h
    | cons c cs =>
      simp only [dropToken?] at h
      split at h
      · have := ih h
        simp only [List.length_cons]
        omega
      · cases h

/-- The two sides of a cut and the token between them have the length of the text. -/
theorem length_of_cutAt {token text before after : List Char}
    (h : cutAt token text = some (before, after)) :
    before.length + token.length + after.length = text.length := by
  induction text generalizing before with
  | nil =>
    simp only [cutAt] at h
    split at h
    · simp_all
    · cases h
  | cons c cs ih =>
    simp only [cutAt] at h
    split at h
    · rename_i rest hrest
      have := length_of_dropToken? hrest
      simp only [Option.some.injEq, Prod.mk.injEq] at h
      obtain ⟨rfl, rfl⟩ := h
      simp only [List.length_nil]
      omega
    · simp only [Option.map_eq_some_iff, Prod.mk.injEq, Prod.exists] at h
      obtain ⟨b, a, hcut, rfl, rfl⟩ := h
      have := ih hcut
      simp only [List.length_cons]
      omega

/-- The pieces between the occurrences of a non-empty token, found from left to right. -/
def piecesAt (token : List Char) (nonempty : token ≠ []) (text : List Char) :
    List (List Char) :=
  match _cut : cutAt token text with
  | none => [text]
  | some (before, after) => before :: piecesAt token nonempty after
termination_by text.length
decreasing_by
  have := length_of_cutAt _cut
  have := List.length_pos_iff.2 nonempty
  omega

/-- Texts joined with a separator between neighbours. -/
def joined (separator : String) : List String → String
  | [] => ""
  | [s] => s
  | s :: t :: rest => s ++ separator ++ joined separator (t :: rest)

end RadarConform.Text
