import RadarConform.Pattern.Bracket
import RadarConform.Unicode.Alphanumeric

/-!
# Reading patterns

The text of a pattern is read from left to right.  Groups that are still open wait on a stack with
the modes in force before them, so the end of a group restores those; a change of modes inside a
group holds to its end, across its alternatives.

* `Item`: a part of a branch, with its nesting depth.
* `Reading`: what is open and what was read of the innermost group.
* `Pattern.parse?`: the pattern of a text, unless the text is none.
* `Pattern.whole?`: the pattern that is meant to span a whole text.
-/

namespace RadarConform

namespace Pattern

/-- A part of a branch.  A change of modes is a part that cannot be repeated. -/
structure Item where
  pattern : Pattern
  depth : Nat
  repeatable : Bool

/-- A group that is still open: its number if it captures, what stands before it, and the modes in
force there. -/
structure Group where
  number : Option Nat
  branches : List Item
  items : List Item
  flags : Flags

/-- A reading in progress: the open groups, innermost first; the finished branches of the innermost
group and the items of the branch being read, the last first; the modes; and the names and the
count of the capturing groups so far. -/
structure Reading where
  groups : List Group
  branches : List Item
  items : List Item
  flags : Flags
  names : List (List Char)
  captures : Nat

namespace Reading

/-- The reading before the first character. -/
def initial : Reading :=
  { groups := [], branches := [], items := [], flags := .initial, names := [], captures := 0 }

/-! ## Putting parts together -/

/-- The greatest depth among items. -/
def greatestDepth (items : List Item) : Nat := items.foldl (fun d item => max d item.depth) 0

/-- Items one after the other; they stand last first. -/
def sequence : List Item → Item
  | [] => { pattern := .empty, depth := 0, repeatable := true }
  | [item] => item
  | item :: items =>
    { pattern := items.foldl (fun p before => .seq before.pattern p) item.pattern,
      depth := greatestDepth (item :: items) + 1, repeatable := true }

/-- The branches of a group as alternatives; they stand last first. -/
def alternatives : List Item → Item
  | [] => { pattern := .empty, depth := 0, repeatable := true }
  | [branch] => branch
  | branch :: branches =>
    { pattern := branches.foldl (fun p before => .alt before.pattern p) branch.pattern,
      depth := greatestDepth (branch :: branches) + 1, repeatable := true }

/-- All that was read of the innermost group. -/
def content (r : Reading) : Item := alternatives (sequence r.items :: r.branches)

/-- The reading with one more item. -/
def add (r : Reading) (p : Pattern) (depth : Nat) : Reading :=
  { r with items := { pattern := p, depth, repeatable := true } :: r.items }

/-- The reading with a new group open that does not capture, in which other modes hold. -/
def enter (r : Reading) (flags : Flags) : Reading :=
  { r with
    groups :=
      { number := none, branches := r.branches, items := r.items, flags := r.flags } :: r.groups,
    branches := [], items := [], flags }

/-- The reading with a new capturing group open; the groups are numbered from 1. -/
def enterCapture (r : Reading) : Reading :=
  let number := r.captures + 1
  { r with
    groups :=
      { number := some number, branches := r.branches, items := r.items, flags := r.flags }
        :: r.groups,
    branches := [], items := [], captures := number }

/-- The reading with the innermost group closed. -/
def leave (r : Reading) : Option Reading :=
  match r.groups with
  | [] => none
  | g :: groups =>
    let inside := r.content
    let item : Item := {
      pattern := .group g.number inside.pattern, depth := inside.depth + 1, repeatable := true }
    some { r with groups, branches := g.branches, items := item :: g.items, flags := g.flags }

/-- The reading with the last item repeated; `lazily` says that a question mark follows. -/
def repeatLast (r : Reading) (least : Nat) (most : Option Nat) (lazily : Bool) :
    Option Reading :=
  match r.items with
  | [] => none
  | item :: items =>
    if item.repeatable then
      some { r with items :=
        { pattern := .times item.pattern least most (lazily == r.flags.swapGreed),
          depth := item.depth + 1, repeatable := true } :: items }
    else none

/-! ## Groups -/

/-- Whether a character may stand in the name of a group. -/
def isNameChar (first : Bool) (c : Char) : Bool :=
  if first then c == '_' || Unicode.isAlphabetic c
  else c == '_' || c == '.' || c == '[' || c == ']' || Unicode.isAlphabetic c
    || Unicode.isNumeric c

/-- The name of a group and what follows its closing bracket. -/
def readName (cs : List Char) : Option (List Char × List Char) :=
  let name := cs.takeWhile (· != '>')
  match name, cs.dropWhile (· != '>') with
  | c :: rest, '>' :: after =>
    if isNameChar true c && rest.all (isNameChar false) then some (name, after) else none
  | _, _ => none

/-- The modes that a list of letters sets and, after a hyphen, clears, and what follows the list:
a colon or a closing parenthesis.  No letter and no hyphen may stand twice, and a letter must
follow the hyphen. -/
def readModes (f : Flags) (value : Bool) (seen : List Char) :
    List Char → Option (Flags × List Char × List Char)
  | [] => none
  | c :: cs =>
    if c = ':' ∨ c = ')' then
      if seen.head? = some '-' then none else some (f, seen, c :: cs)
    else if seen.contains c then none
    else if c = '-' then readModes f false (c :: seen) cs
    else do
      let f ← f.assign? c value
      readModes f value (c :: seen) cs

/-- Opens a named group. -/
def enterNamed (r : Reading) (cs : List Char) : Option (Reading × List Char) := do
  let (name, rest) ← readName cs
  if r.names.contains name then none
  else return ({ r.enterCapture with names := name :: r.names }, rest)

/-- Reads what follows an opening parenthesis: a name for the group, modes for it, or modes for
what follows.  Conditions on what stands before or after a group are no patterns. -/
def readGroup (r : Reading) (cs : List Char) : Option (Reading × List Char) :=
  match skipBlanks r.flags cs with
  | '?' :: '=' :: _ => none
  | '?' :: '!' :: _ => none
  | '?' :: '<' :: '=' :: _ => none
  | '?' :: '<' :: '!' :: _ => none
  | '?' :: 'P' :: '<' :: rest => r.enterNamed rest
  | '?' :: '<' :: rest => r.enterNamed rest
  | '?' :: rest => do
    let (flags, seen, rest) ← readModes r.flags true [] rest
    match rest with
    | ')' :: rest =>
      if seen = [] then none
      else
        let item : Item := { pattern := .empty, depth := 0, repeatable := false }
        return ({ r with flags, items := item :: r.items }, rest)
    | _ :: rest => return (r.enter flags, rest)
    | [] => none
  | rest => some (r.enterCapture, rest)

/-! ## Repetition -/

/-- Repeats the last item as the mark of a repetition says, and what follows the mark: a question
mark after it says which of several matches is wanted. -/
def repeatMarked (r : Reading) (least : Nat) (most : Option Nat) :
    List Char → Option (Reading × List Char)
  | '?' :: cs => (r.repeatLast least most true).map (·, cs)
  | cs => (r.repeatLast least most false).map (·, cs)

/-- Digits, between which blanks and comments may not count, and what follows them. -/
def digitRun (f : Flags) (comment : Bool) : List Char → List Char × List Char
  | [] => ([], [])
  | c :: cs =>
    if comment then digitRun f (c != '\n') cs
    else if '0' ≤ c && c ≤ '9' then
      let (ds, rest) := digitRun f false cs
      (c :: ds, rest)
    else if f.ignoreBlanks && Text.isBlank c then digitRun f false cs
    else if f.ignoreBlanks && c == '#' then digitRun f true cs
    else ([], c :: cs)

/-- A number of repetitions below 2^32, with white space around it. -/
def readCount (f : Flags) (cs : List Char) : Option (Nat × List Char) :=
  let (ds, rest) := digitRun f false (cs.dropWhile Text.isBlank)
  let n := ds.foldl (fun n c => 10 * n + (c.toNat - 48)) 0
  if ds = [] ∨ UInt32.size ≤ n then none
  else some (n, skipBlanks f (rest.dropWhile Text.isBlank))

/-- The numbers of repetitions that stand between braces, from after the opening brace: one
number, or a least and possibly a greatest one. -/
def readCounts (f : Flags) (cs : List Char) : Option (Nat × Option Nat × List Char) := do
  let (least, rest) ← readCount f (skipBlanks f cs)
  match rest with
  | '\x7d' :: rest => return (least, some least, rest)
  | ',' :: rest =>
    match skipBlanks f rest with
    | '\x7d' :: rest => return (least, none, rest)
    | rest =>
      let (most, rest) ← readCount f rest
      match rest with
      | '\x7d' :: rest => if least ≤ most then return (least, some most, rest) else none
      | _ => none
  | _ => none

/-! ## Steps -/

/-- The pattern of what a backslash introduces. -/
def escapePattern? (f : Flags) : Escape → Option Pattern
  | .literal c byte =>
    if !f.unicode && byte && 127 < c.toNat then none else some (.one (literalSet f c))
  | .set s => some (.one s)
  | .look l => some (.look l)

/-- The set of a point. -/
def anySet? (f : Flags) : Option CharSet :=
  if !f.unicode then none
  else if f.dotAll then some .any
  else if f.crlf then some (.compl (.union (.single '\r') (.single '\n')))
  else some (.compl (.single '\n'))

/-- Reads the part that starts with a character. -/
def step (r : Reading) (c : Char) (cs : List Char) : Option (Reading × List Char) :=
  match c with
  | '(' => r.readGroup cs
  | ')' => r.leave.map (·, cs)
  | '|' => some ({ r with branches := sequence r.items :: r.branches, items := [] }, cs)
  | '[' => do
    let (part, rest) ← readBracket r.flags cs
    return (r.add (.one part.set) part.depth, rest)
  | '?' => r.repeatMarked 0 (some 1) cs
  | '*' => r.repeatMarked 0 none cs
  | '+' => r.repeatMarked 1 none cs
  | '\x7b' => do
    let (least, most, rest) ← readCounts r.flags cs
    r.repeatMarked least most (skipBlanks r.flags rest)
  | '\\' => do
    let (escape, rest) ← readEscape r.flags cs
    return (r.add (← escapePattern? r.flags escape) 0, rest)
  | '.' => (anySet? r.flags).map fun s => (r.add (.one s) 0, cs)
  | '^' =>
    let l := if r.flags.multiLine then Look.lineStart r.flags.crlf else .textStart
    some (r.add (.look l) 0, cs)
  | '$' =>
    let l := if r.flags.multiLine then Look.lineEnd r.flags.crlf else .textEnd
    some (r.add (.look l) 0, cs)
  | _ => some (r.add (.one (literalSet r.flags c)) 0, cs)

/-- Reads to the end of the text.  Every step leaves less to read, which is tested so that the
reading ends. -/
def run (r : Reading) (cs : List Char) : Option Reading :=
  match skipBlanks r.flags cs with
  | [] => some r
  | c :: rest =>
    match r.step c rest with
    | none => none
    | some (r, after) => if after.length < cs.length then run r after else none
termination_by cs.length

end Reading

/-- The greatest depth of groups, repetitions, branches, sequences and sets in a pattern. -/
def maxDepth : Nat := 250

/-- The pattern that a text stands for. -/
def parse? (text : List Char) : Option Pattern := do
  let r ← Reading.initial.run text
  let item := r.content
  if r.groups.isEmpty && item.depth ≤ maxDepth then return item.pattern else none

/-- The text of a pattern put in a group between the anchors of a text. -/
def anchored (text : List Char) : List Char :=
  ['^', '(', '?', ':'] ++ text ++ [')', '$']

/-- The pattern that the constraints of this library are made of: the text is put between the
anchors before it is read. -/
def whole? (text : String) : Option Pattern := parse? (anchored text.toList)

end Pattern

end RadarConform
