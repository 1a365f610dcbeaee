import RadarConform.Yaml.Scalar.Block
import RadarConform.Yaml.Scalar.Plain
import RadarConform.Yaml.Token

/-!
# The tokens of a YAML text in order

Whether a token is the key of a mapping shows only at the colon after it.  So the place of the last
token that may be a key is kept, for every open flow collection, and the token that marks a key is
put there afterwards.  The first token of a line in a block mapping has to be a key.

* `PossibleKey`: a token that may turn out to be a key.
* `Scan`: a place in a text with the tokens before it.
* `Scan.step?`: one token more.
* `tokens?`: the tokens of a text.
-/

namespace RadarConform.Yaml

/-- A token that may turn out to be the key of a mapping: the number of tokens before it, its place,
and whether it has to be a key. -/
structure PossibleKey where
  before : Nat
  index : Nat
  line : Nat
  column : Nat
  needed : Bool

/-- A place in a text, with the tokens before it. -/
structure Scan where
  cursor : Cursor
  /-- The tokens, the last one first. -/
  tokens : List Token
  size : Nat
  /-- For every open block collection the first column right of its own, the innermost first. -/
  margins : List Nat
  /-- The token that may be a key, in the innermost flow collection. -/
  possibleKey : Option PossibleKey
  /-- The same for the collections around it; none is left outside of all flow collections. -/
  outerKeys : List (Option PossibleKey)
  /-- Whether a key may start here. -/
  keyAllowed : Bool

namespace Scan

/-- The start of a text. -/
def start (cs : List Char) : Scan where
  cursor := .start cs
  tokens := []
  size := 0
  margins := []
  possibleKey := none
  outerKeys := []
  keyAllowed := true

/-- Whether the place is inside a flow collection. -/
def inFlow (s : Scan) : Bool := !s.outerKeys.isEmpty

/-- The first column right of the innermost block collection. -/
def margin (s : Scan) : Nat := s.margins.headD 0

/-- One token more, without moving. -/
def push (s : Scan) (t : Token) : Scan := { s with tokens := t :: s.tokens, size := s.size + 1 }

/-- The place some characters further on. -/
def advance (s : Scan) (n : Nat) : Scan := { s with cursor := s.cursor.advance n }

/-! ## Blanks -/

/-- The place after the blanks and the comment that come next on a line.  A byte order mark may
start a line. -/
def skipInLine (blank : Char → Bool) (p : Cursor) : Cursor :=
  let p := if p.column == 0 && p.isAt '\ufeff' then p.advance 1 else p
  let p := p.skipWhile blank
  if p.isAt '#' then p.skipWhile (!isBreak ·) else p

/-- The place of the next token, and whether a key may start there.  Where a key may start, a tab
is no blank, and outside of flow collections a key may start in every new line. -/
def skipBlanks (inFlow keyAllowed : Bool) (p : Cursor) : Cursor × Bool :=
  match skipInLine (fun c => c == ' ' || ((inFlow || !keyAllowed) && c == '\t')) p with
  | q =>
    if q.next?.any isBreak then
      match q.skipBreak with
      | r =>
        if r.rest.length < p.rest.length then skipBlanks inFlow (keyAllowed || !inFlow) r
        else (q, keyAllowed)
    else (q, keyAllowed)
termination_by p.rest.length

/-! ## Possible keys -/

/-- The greatest number of bytes from the start of a key to the colon after it. -/
def maxKeyLength : Nat := 1024

/-- What is left of a possible key at a place: it must be on the same line and not too far away.
A key that is needed cannot be given up. -/
def keepKey (p : Cursor) : Option PossibleKey → Option (Option PossibleKey)
  | none => some none
  | some k =>
    if k.line < p.line ∨ k.index + maxKeyLength < p.index then
      if k.needed then none else some none
    else some (some k)

/-- Gives up the possible keys that are too far away. -/
def dropStaleKeys (s : Scan) : Option Scan := do
  let possibleKey ← keepKey s.cursor s.possibleKey
  let outerKeys ← s.outerKeys.mapM (keepKey s.cursor)
  return { s with possibleKey, outerKeys }

/-- Gives up the possible key, unless it is needed. -/
def dropKey (s : Scan) : Option Scan :=
  if s.possibleKey.any (·.needed) then none else some { s with possibleKey := none }

/-- Takes the next token as a possible key, where a key may start. -/
def saveKey (s : Scan) : Option Scan :=
  if !s.keyAllowed then some s
  else do
    let s ← s.dropKey
    let key : PossibleKey := {
      before := s.size, index := s.cursor.index, line := s.cursor.line,
      column := s.cursor.column,
      needed := !s.inFlow && s.margin == s.cursor.column + 1 }
    return { s with possibleKey := some key }

/-! ## Indentation -/

/-- Opens a block collection in a column, if that is right of the innermost one; the token for it
comes after a number of tokens. -/
def indent (s : Scan) (column before : Nat) (t : Token) : Scan :=
  if s.inFlow || column < s.margin then s
  else
    let later := s.tokens.take (s.size - before)
    { s with
      margins := (column + 1) :: s.margins
      tokens := later ++ t :: s.tokens.drop (s.size - before)
      size := s.size + 1 }

/-- The margins of the collections that are still open in a column, and the number of those that are
not. -/
def closed (column : Nat) : List Nat → List Nat × Nat
  | [] => ([], 0)
  | m :: rest =>
    if column + 1 < m then
      let (open_, n) := closed column rest
      (open_, n + 1)
    else (m :: rest, 0)

/-- Closes block collections. -/
def close (s : Scan) (open_ : List Nat) (count : Nat) : Scan :=
  { s with
    margins := open_
    tokens := List.replicate count .blockEnd ++ s.tokens
    size := s.size + count }

/-- Closes the block collections right of a column. -/
def dedent (s : Scan) (column : Nat) : Scan :=
  if s.inFlow then s else s.close (closed column s.margins).1 (closed column s.margins).2

/-- Closes all block collections. -/
def dedentAll (s : Scan) : Scan := if s.inFlow then s else s.close [] s.margins.length

/-! ## Marks -/

/-- A directive, or the start or end of a document: all collections end before it. -/
def betweenDocuments (s : Scan) : Option Scan := do
  let s ← s.dedentAll.dropKey
  return { s with keyAllowed := false }

/-- A directive. -/
def directive (s : Scan) : Option Scan := do
  let s ← s.betweenDocuments
  let (d, cursor) ← Directive.read (s.cursor.advance 1)
  return { s.push (.directive d) with cursor }

/-- The start of a flow collection, which may be a key. -/
def flowStart (s : Scan) (t : Token) : Option Scan := do
  let s ← s.saveKey
  return {
    (s.advance 1).push t with
    outerKeys := s.possibleKey :: s.outerKeys, possibleKey := none, keyAllowed := true }

/-- The end of a flow collection. -/
def flowEnd (s : Scan) (t : Token) : Option Scan := do
  let s ← s.dropKey
  let s := { (s.advance 1).push t with keyAllowed := false }
  return match s.outerKeys with
    | [] => s
    | k :: rest => { s with possibleKey := k, outerKeys := rest }

/-- The comma in a flow collection. -/
def flowEntry (s : Scan) : Option Scan := do
  let s ← s.dropKey
  return { (s.advance 1).push .flowEntry with keyAllowed := true }

/-- The hyphen before an item of a block sequence. -/
def blockEntry (s : Scan) : Option Scan := do
  if !s.inFlow && !s.keyAllowed then none
  else
    let s ← (s.indent s.cursor.column s.size .blockSequenceStart).dropKey
    return { (s.advance 1).push .blockEntry with keyAllowed := true }

/-- The question mark before a key. -/
def key (s : Scan) : Option Scan := do
  if !s.inFlow && !s.keyAllowed then none
  else
    let s ← (s.indent s.cursor.column s.size .blockMappingStart).dropKey
    return { (s.advance 1).push .key with keyAllowed := !s.inFlow }

/-- The colon before a value.  It makes the possible key a key; without one, a key was marked before
or is missing. -/
def value (s : Scan) : Option Scan :=
  match s.possibleKey with
  | some k =>
    let later := s.tokens.take (s.size - k.before)
    let s := {
      s with
      tokens := later ++ Token.key :: s.tokens.drop (s.size - k.before), size := s.size + 1,
      possibleKey := none }
    let s := s.indent k.column k.before .blockMappingStart
    some { (s.advance 1).push .value with keyAllowed := false }
  | none =>
    if !s.inFlow && !s.keyAllowed then none
    else
      let s := s.indent s.cursor.column s.size .blockMappingStart
      some { (s.advance 1).push .value with keyAllowed := !s.inFlow }

/-! ## Nodes -/

/-- The name of an anchor, or of a node that it refers to. -/
def name (s : Scan) (token : String → Token) : Option Scan := do
  let s ← s.saveKey
  let (name, cursor) ← readName (s.cursor.advance 1)
  return { s.push (token name) with cursor, keyAllowed := false }

/-- A tag. -/
def tag (s : Scan) : Option Scan := do
  let s ← s.saveKey
  let (text, cursor) ← TagText.read s.inFlow s.cursor
  return { s.push (.tag text) with cursor, keyAllowed := false }

/-- A scalar in a block of its own; a key may start after it. -/
def blockScalar (s : Scan) (style : ScalarStyle) : Option Scan := do
  let s ← s.dropKey
  let (text, cursor) ← readBlock (style == .folded) s.margin (s.cursor.advance 1)
  return { s.push (.scalar style (.ofList text)) with cursor, keyAllowed := true }

/-- A scalar in quotes. -/
def quotedScalar (s : Scan) (read : Cursor → Option (List Char × Cursor)) : Option Scan := do
  let s ← s.saveKey
  let (text, cursor) ← read (s.cursor.advance 1)
  return { s.push (.scalar .quoted (.ofList text)) with cursor, keyAllowed := false }

/-- A scalar without marks; a key may start after it if it is followed by a line break. -/
def plainScalar (s : Scan) : Option Scan := do
  let s ← s.saveKey
  let scalar ← readPlain s.inFlow s.margin s.cursor
  return {
    s.push (.scalar .plain (.ofList scalar.text)) with
    cursor := scalar.after, keyAllowed := scalar.broken }

/-- The characters with which a plain scalar cannot start. -/
def indicators : List Char :=
  ['-', '?', ':', ',', '[', ']', '\x7b', '\x7d', '#', '&', '*', '!', '|', '>', '\'', '"', '%', '@',
    '\x60']

/-- Whether a plain scalar starts with a character, given the one after it. -/
def startsPlain (inFlow : Bool) (c : Char) (second : Option Char) : Bool :=
  (!isBlank c && !indicators.contains c) || (c == '-' && !second.any isBlank)
    || (!inFlow && (c == '?' || c == ':') && !endsWord second)

/-! ## All tokens -/

/-- The token that starts with a character. -/
def token? (s : Scan) (c : Char) : Option Scan :=
  let wordEnds := endsWord s.cursor.second?
  if c == '%' && s.cursor.column == 0 then s.directive
  else if s.cursor.atDocumentMark then do
    let s ← s.betweenDocuments
    return (s.advance 3).push (if c == '-' then .documentStart else .documentEnd)
  else if c == '[' then s.flowStart .flowSequenceStart
  else if c == '\x7b' then s.flowStart .flowMappingStart
  else if c == ']' then s.flowEnd .flowSequenceEnd
  else if c == '\x7d' then s.flowEnd .flowMappingEnd
  else if c == ',' then s.flowEntry
  else if c == '-' && wordEnds then s.blockEntry
  else if c == '?' && (s.inFlow || wordEnds) then s.key
  else if c == ':' && (s.inFlow || wordEnds) then s.value
  else if c == '*' then s.name .reference
  else if c == '&' then s.name .anchor
  else if c == '!' then s.tag
  else if c == '|' && !s.inFlow then s.blockScalar .literal
  else if c == '>' && !s.inFlow then s.blockScalar .folded
  else if c == '\'' then s.quotedScalar readSingleQuoted
  else if c == '"' then s.quotedScalar readDoubleQuoted
  else if startsPlain s.inFlow c s.cursor.second? then s.plainScalar
  else none

/-- The place of the next token, with the collections that end before it closed. -/
def toNext (s : Scan) : Option Scan := do
  let (cursor, keyAllowed) := skipBlanks s.inFlow s.keyAllowed s.cursor
  let s ← { s with cursor, keyAllowed }.dropStaleKeys
  return s.dedent cursor.column

/-- The tokens up to the end of the text, the last one first. -/
def run (s : Scan) : Option (List Token) :=
  match s.toNext with
  | none => none
  | some next =>
    match next.cursor.next? with
    | none => (next.dedentAll.dropKey).map (·.tokens)
    | some c =>
      match next.token? c with
      | none => none
      | some after =>
        if after.cursor.rest.length < s.cursor.rest.length then after.run else none
termination_by s.cursor.rest.length

end Scan

/-- The tokens of a text. -/
def tokens? (text : String) : Option (List Token) :=
  let cs := text.toList
  if cs.all isAllowed then (Scan.start cs).run.map List.reverse else none

end RadarConform.Yaml
