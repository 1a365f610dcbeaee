import RadarConform.Pattern.Escape

/-!
# Bracketed sets

A bracketed set lists characters, ranges, classes and further bracketed sets; `&&`, `--` and `~~`
between two lists take what is common to them, what is only in the first, and what is in exactly
one.  The sets that are still open wait on a stack while the text is read from left to right.

* `SetPart`: a set together with the depth of the brackets, lists and operations in it.
* `Bracket`: an open set.
* `readBracket`: reads a set up to its closing bracket.
-/

namespace RadarConform.Pattern

/-- A set, and how deep it is nested. -/
structure SetPart where
  set : CharSet
  depth : Nat

/-- The operations between lists. -/
inductive SetOp where
  | inter
  | diff
  | symmDiff

/-- An open set: the left side of an operation that waits for its right side, and the items of the
list that is being read, the last first. -/
structure Bracket where
  negated : Bool
  pending : Option (SetPart × SetOp)
  items : List SetPart

namespace Bracket

/-- The union of a list of items. -/
def unionOf : List SetPart → SetPart
  | [] => { set := .empty, depth := 0 }
  | [item] => item
  | items =>
    { set := items.foldl (fun s item => .union item.set s) .empty,
      depth := items.foldl (fun d item => max d item.depth) 0 + 1 }

/-- The result of the operation that waits, with the list read last as its right side. -/
def operand (f : Flags) (b : Bracket) : SetPart :=
  let right := unionOf b.items
  match b.pending with
  | none => right
  | some (left, op) =>
    let l := foldedIf f left.set
    let r := foldedIf f right.set
    let set := match op with
      | .inter => .inter l r
      | .diff => .diff l r
      | .symmDiff => .symmDiff l r
    { set, depth := max left.depth right.depth + 1 }

/-- The set when its closing bracket is read. -/
def close? (f : Flags) (b : Bracket) : Option SetPart := do
  let part := b.operand f
  let set ← negatedIf f b.negated (foldedIf f part.set)
  return { set, depth := part.depth + 1 }

/-- The open set with one more item. -/
def add (b : Bracket) (s : CharSet) (depth : Nat) : Bracket :=
  { b with items := { set := s, depth } :: b.items }

/-- The open set after the mark of an operation. -/
def operate (f : Flags) (b : Bracket) (op : SetOp) : Bracket :=
  { b with pending := some (b.operand f, op), items := [] }

end Bracket

/-! ## Items -/

/-- The named ASCII classes. -/
def asciiClass? : String → Option CharSet
  | "alnum" => some (.union (.range '0' '9') (.union (.range 'A' 'Z') (.range 'a' 'z')))
  | "alpha" => some (.union (.range 'A' 'Z') (.range 'a' 'z'))
  | "ascii" => some (.range (Char.ofNat 0) (Char.ofNat 127))
  | "blank" => some (.union (.single '\t') (.single ' '))
  | "cntrl" => some (.union (.range (Char.ofNat 0) (Char.ofNat 31)) (.single (Char.ofNat 127)))
  | "digit" => some (.range '0' '9')
  | "graph" => some (.range '!' '~')
  | "lower" => some (.range 'a' 'z')
  | "print" => some (.range ' ' '~')
  | "punct" =>
    some (.union (.union (.range '!' '/') (.range ':' '@'))
      (.union (.range '[' '`') (.range (Char.ofNat 0x7b) '~')))
  | "space" => some asciiSpace
  | "upper" => some (.range 'A' 'Z')
  | "word" => some asciiWord
  | "xdigit" => some (.union (.range '0' '9') (.union (.range 'A' 'F') (.range 'a' 'f')))
  | _ => none

/-- A named ASCII class, from after its opening bracket: the class, whether it is negated, and
what follows its `:]`. -/
def readAsciiClass? : List Char → Option (CharSet × Bool × List Char)
  | ':' :: cs => do
    let (negated, cs) := match cs with
      | '^' :: rest => (true, rest)
      | _ => (false, cs)
    match cs.dropWhile (· != ':') with
    | ':' :: ']' :: rest =>
      let s ← asciiClass? (.ofList (cs.takeWhile (· != ':')))
      return (s, negated, rest)
    | _ => none
  | _ => none

/-- One element of a list: a character or what a backslash introduces. -/
def readElement (f : Flags) : List Char → Option (Escape × List Char)
  | [] => none
  | '\\' :: cs => readEscape f cs
  | c :: cs => some (.literal c false, cs)

/-- The set of an element that stands alone. -/
def elementSet? (f : Flags) : Escape → Option CharSet
  | .literal c _ => if f.unicode || c.toNat < 128 then some (.single c) else none
  | .set s => some s
  | .look _ => none

/-- The character after blanks and comments that do not count; a comment is not looked through to
its end, only past its mark. -/
def peekPast (f : Flags) (cs : List Char) : Option Char :=
  if f.ignoreBlanks then
    match cs.dropWhile Text.isBlank with
    | '#' :: rest => (rest.dropWhile Text.isBlank).head?
    | rest => rest.head?
  else cs.head?

/-- The set from one element to another. -/
def rangeSet? (f : Flags) : Escape → Escape → Option CharSet
  | .literal a _, .literal b _ =>
    if a ≤ b ∧ (f.unicode ∨ b.toNat < 128) then some (.range a b) else none
  | _, _ => none

/-- An item that starts with an element: the element alone, or a range of characters when a hyphen
follows that is neither the last character of the set nor the mark of a difference. -/
def readItem (f : Flags) (cs : List Char) : Option (CharSet × List Char) := do
  let (first, rest) ← readElement f cs
  match skipBlanks f rest with
  | '-' :: after =>
    let next := peekPast f after
    if next = some ']' ∨ next = some '-' then return (← elementSet? f first, '-' :: after)
    else
      let (second, rest) ← readElement f (skipBlanks f after)
      return (← rangeSet? f first second, rest)
  | rest => return (← elementSet? f first, rest)

/-! ## Sets -/

/-- The number of hyphens at the start of a set and what follows them; `comment` says that the
text starts inside a comment. -/
def leadingHyphens (f : Flags) (comment : Bool) : List Char → Nat × List Char
  | [] => (0, [])
  | c :: cs =>
    if comment then leadingHyphens f (c != '\n') cs
    else if f.ignoreBlanks && Text.isBlank c then leadingHyphens f false cs
    else if f.ignoreBlanks && c == '#' then leadingHyphens f true cs
    else if c = '-' then
      let (n, rest) := leadingHyphens f false cs
      (n + 1, rest)
    else (0, c :: cs)

/-- Opens a set, from after its opening bracket: a circumflex negates it, and hyphens or a closing
bracket at its very start stand for themselves. -/
def openBracket (f : Flags) (cs : List Char) : Bracket × List Char :=
  let cs := skipBlanks f cs
  let (negated, cs) := match cs with
    | '^' :: rest => (true, rest)
    | _ => (false, cs)
  let (hyphens, rest) := leadingHyphens f false cs
  let items := List.replicate hyphens { set := .single '-', depth := 0 : SetPart }
  match hyphens, rest with
  | 0, ']' :: rest =>
    ({ negated, pending := none, items := [{ set := .single ']', depth := 0 }] }, rest)
  | _, _ => ({ negated, pending := none, items }, rest)

/-- What one step of reading a set leads to: more to read, or the complete set. -/
inductive BracketStep where
  | more (outer : List Bracket) (current : Bracket) (rest : List Char)
  | done (part : SetPart) (rest : List Char)

/-- Reads one item, mark or bracket.  The open sets around the current one are `outer`, the
innermost first. -/
def bracketStep (f : Flags) (outer : List Bracket) (current : Bracket) :
    List Char → Option BracketStep
  | [] => none
  | '[' :: cs =>
    match readAsciiClass? cs with
    | some (s, negated, rest) => do
      let s ← negatedIf f negated (foldedIf f s)
      return .more outer (current.add s 0) rest
    | none =>
      let (inner, rest) := openBracket f cs
      some (.more (current :: outer) inner rest)
  | ']' :: cs => do
    let part ← current.close? f
    match outer with
    | [] => return .done part cs
    | next :: outer => return .more outer (next.add part.set part.depth) cs
  | '&' :: '&' :: cs => some (.more outer (current.operate f .inter) cs)
  | '-' :: '-' :: cs => some (.more outer (current.operate f .diff) cs)
  | '~' :: '~' :: cs => some (.more outer (current.operate f .symmDiff) cs)
  | cs => do
    let (s, rest) ← readItem f cs
    return .more outer (current.add s 0) rest

/-- Reads up to the closing bracket of the outermost set.  Every step leaves less to read, which is
tested so that the reading ends. -/
def readSets (f : Flags) (outer : List Bracket) (current : Bracket) (cs : List Char) :
    Option (SetPart × List Char) :=
  match bracketStep f outer current (skipBlanks f cs) with
  | none => none
  | some (.done part rest) => some (part, rest)
  | some (.more outer current rest) =>
    if rest.length < cs.length then readSets f outer current rest else none
termination_by cs.length

/-- Reads a bracketed set, from after its opening bracket. -/
def readBracket (f : Flags) (cs : List Char) : Option (SetPart × List Char) :=
  let (current, rest) := openBracket f cs
  readSets f [] current rest

end RadarConform.Pattern
