import RadarConform.Json.Token

/-!
# Reading JSON

The tokens of a text are read one after the other, and the lists and records that are still open
wait on a stack.  Nothing may follow the value.  What is read first is an outline, in which literals
without a value have their place; a text stands for a value when its outline is not too deep and has
values everywhere.

* `Json.Outline`: the structure of a text, with `Json.Outline.value?`.
* `Json.Reading`: what is open and what may come next.
* `Json.Outline.parse`: the outline of a text.
* `Json.parse`: the value of a text.
-/

namespace RadarConform.Json

/-! ## Outlines -/

/-- The structure of a JSON text, with the values of its literals, where they have one. -/
inductive Outline where
  | atom (value : Option Json)
  | list (items : List Outline)
  | record (entries : List (Option String × Outline))
deriving Inhabited

namespace Outline

mutual

/-- The value of an outline in which all literals have one. -/
def value? : Outline → Option Json
  | atom v => v
  | list items => (itemValues? items).map .list
  | record entries => (entryValues? entries).map .record

/-- The values of the items of a list. -/
def itemValues? : List Outline → Option (List Json)
  | [] => some []
  | o :: rest => do
    let v ← value? o
    return v :: (← itemValues? rest)

/-- The values of the entries of a record. -/
def entryValues? : List (Option String × Outline) → Option (List (String × Json))
  | [] => some []
  | (key, o) :: rest => do
    let k ← key
    let v ← value? o
    return (k, v) :: (← entryValues? rest)

end

end Outline

/-! ## Readings in progress -/

/-- A list or record that is still open, with what it holds so far, the last item or entry
first. -/
inductive Open where
  | list (items : List Outline)
  | record (entries : List (Option String × Outline)) (key : Option String)

/-- What may come next. -/
inductive Expecting where
  /-- A value; directly after an opening bracket also the closing one. -/
  | value (first : Bool)
  /-- A key; directly after an opening brace also the closing one.  The entries are those read
  before it, the last first. -/
  | key (first : Bool) (entries : List (Option String × Outline))
  /-- The colon after a key. -/
  | colon (entries : List (Option String × Outline)) (key : Option String)
  /-- A comma, a closing mark, or the end, after a value. -/
  | next (outline : Outline)

/-- A reading in progress: what is open, innermost first, and what may come next. -/
structure Reading where
  stack : List Open
  expecting : Expecting

namespace Reading

/-- The reading of a text from which nothing is read. -/
def start : Reading := { stack := [], expecting := .value false }

/-- The reading after a value is complete inside what is open. -/
def close (stack : List Open) (o : Outline) : Reading := { stack, expecting := .next o }

/-- The reading after one more token; nothing when the token may not come next. -/
def step (r : Reading) (token : Token) : Option Reading :=
  match r.expecting, token with
  | .value _, .atom v => some { r with expecting := .next (.atom v) }
  | .value _, .string s => some { r with expecting := .next (.atom (s.map .text)) }
  | .value _, .openList => some { stack := .list [] :: r.stack, expecting := .value true }
  | .value _, .openRecord =>
    some { stack := .record [] none :: r.stack, expecting := .key true [] }
  | .value true, .closeList =>
    match r.stack with
    | .list items :: stack => some (close stack (.list items.reverse))
    | _ => none
  | .key _ entries, .string key => some { r with expecting := .colon entries key }
  | .key true entries, .closeRecord =>
    match r.stack with
    | .record _ _ :: stack => some (close stack (.record entries.reverse))
    | _ => none
  | .colon entries key, .colon =>
    match r.stack with
    | .record _ _ :: stack =>
      some { stack := .record entries key :: stack, expecting := .value false }
    | _ => none
  | .next o, .comma =>
    match r.stack with
    | .list items :: stack =>
      some { stack := .list (o :: items) :: stack, expecting := .value false }
    | .record entries key :: _ =>
      some { r with expecting := .key false ((key, o) :: entries) }
    | [] => none
  | .next o, .closeList =>
    match r.stack with
    | .list items :: stack => some (close stack (.list (o :: items).reverse))
    | _ => none
  | .next o, .closeRecord =>
    match r.stack with
    | .record entries key :: stack => some (close stack (.record ((key, o) :: entries).reverse))
    | _ => none
  | _, _ => none

/-- The outline, when the reading is complete. -/
def outline? (r : Reading) : Option Outline :=
  match r.stack, r.expecting with
  | [], .next o => some o
  | _, _ => none

end Reading

/-! ## Texts -/

/-- The outline that tokens make. -/
def Outline.ofTokens? (tokens : List Token) : Option Outline := do
  (← tokens.foldlM Reading.step .start).outline?

/-- The outline of a text. -/
def Outline.parse (text : String) : Option Outline := do
  Outline.ofTokens? (← Token.scan text.toList)

/-- The greatest number of lists and records that may be open at a time. -/
def maxDepth : Nat := 127

/-- The value that a JSON text stands for. -/
def parse (text : String) : Option Json := do
  let tokens ← Token.scan text.toList
  if Token.depth tokens ≤ maxDepth then (← Outline.ofTokens? tokens).value? else none

end RadarConform.Json
