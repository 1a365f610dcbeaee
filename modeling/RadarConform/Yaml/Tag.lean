import RadarConform.Yaml.Cursor
import RadarConform.Yaml.Scalar.Quoted

/-!
# Names and tags

An anchor names a node, and a tag says what kind of value a node is.  A tag is written with a handle
that stands for the start of the tag (`!!int`), as a tag of its own (`!mark`), or in full
(`!<tag:yaml.org,2002:int>`).  Escaped bytes in a tag should encode characters, but need not.

* `readName`: the name of an anchor.
* `TagText`: a tag as it is written, read by `TagText.read`.
* `Tag`: what a tag says, with `Tag.ofChars`.
* `Directive`: a line that sets the version of YAML or a handle, read by `Directive.read`.
-/

namespace RadarConform.Yaml

/-! ## Names -/

/-- The name of an anchor at a place, and the place after it.  Of what may follow a name, the
marks are those that cannot belong to a value. -/
def readName (p : Cursor) : Option (String × Cursor) :=
  let (name, q) := p.takeWhile isNameChar
  let ends := endsWord q.next? || q.next?.any "?:,]\x7d%@\x60".toList.contains
  if name = [] ∨ !ends then none else some (.ofList name, q)

/-! ## Tags -/

/-- The characters of a tag or of a part of it, with nothing in the place of escaped bytes that
encode no character. -/
abbrev TagChars := List (Option Char)

/-- The characters of a text. -/
def TagChars.ofList (cs : List Char) : TagChars := cs.map some

/-- The characters that count: those before the first that is zero. -/
def TagChars.counted (cs : TagChars) : TagChars := cs.takeWhile (· ≠ some '\x00')

/-- A tag as it is written: a handle and what follows it.  The handle is empty for a tag in full. -/
structure TagText where
  handle : String
  suffix : TagChars
deriving DecidableEq

namespace TagText

/-- The characters of a tag after its handle; inside angle brackets there are some more. -/
def isTagChar (bracketed : Bool) (c : Char) : Bool :=
  isNameChar c || ";/?:@&=+$.%!~*'()".toList.contains c
    || (bracketed && (c == ',' || c == '[' || c == ']'))

/-- The value of a byte written as a percent sign and two hexadecimal digits. -/
def escapedByte? : List Char → Option Nat
  | '%' :: a :: b :: _ => hexValue? [a, b]
  | _ => none

/-- The number of bytes that encode a character, and the bits that the first of them holds. -/
def byteCount? (first : Nat) : Option (Nat × Nat) :=
  if first < 0x80 then some (1, first)
  else if 0xC0 ≤ first && first < 0xE0 then some (2, first % 0x20)
  else if 0xE0 ≤ first && first < 0xF0 then some (3, first % 0x10)
  else if 0xF0 ≤ first && first < 0xF8 then some (4, first % 0x08)
  else none

/-- The bits of a number of escaped bytes that continue a character, after those before them. -/
def continued? : (count : Nat) → (value : Nat) → List Char → Option Nat
  | 0, value, _ => some value
  | count + 1, value, cs => do
    let byte ← escapedByte? cs
    if 0x80 ≤ byte && byte < 0xC0 then continued? count (64 * value + byte % 64) (cs.drop 3)
    else none

/-- The character that escaped bytes at the start of a text encode in the fewest bytes, if there is
one, and how many bytes follow the first. -/
def escaped? (cs : List Char) : Option (Option Char × Nat) := do
  let (count, bits) ← byteCount? (← escapedByte? cs)
  let c := codePoint? (← continued? (count - 1) bits (cs.drop 3))
  return (c.filter (·.utf8Size = count), count - 1)

/-- The part of a tag after its handle at a place, with the text before it in reverse. -/
def readSuffix (bracketed : Bool) (before : TagChars) (p : Cursor) :
    Option (TagChars × Cursor) :=
  match _h : p.rest with
  | [] => some (before.reverse, p)
  | c :: cs =>
    if !isTagChar bracketed c then some (before.reverse, p)
    else if c == '%' then
      match escaped? (c :: cs) with
      | none => none
      | some (e, more) => readSuffix bracketed (e :: before) (p.advance (3 * more + 3))
    else readSuffix bracketed (some c :: before) (p.advance 1)
termination_by p.rest.length
decreasing_by all_goals exact Cursor.length_advance_lt (Nat.succ_pos _) (by simp [_h])

/-- The handle at a place, which starts with an exclamation mark: a name with another one after it,
or what may turn out to be no handle. -/
def readHandle (p : Cursor) : Option (List Char × Cursor) :=
  if !p.isAt '!' then none
  else
    let (name, q) := (p.advance 1).takeWhile isNameChar
    if q.isAt '!' then some ('!' :: name ++ ['!'], q.advance 1) else some ('!' :: name, q)

/-- Whether what was read as a handle is one that needs a suffix. -/
def isNamedHandle (handle : List Char) : Bool :=
  handle.length ≥ 2 && handle.getLast? == some '!'

/-- The tag in full at a place, between angle brackets. -/
def readBracketed (p : Cursor) : Option (TagText × Cursor) := do
  let (suffix, q) ← readSuffix true [] (p.advance 2)
  if suffix = [] ∨ !q.isAt '>' then none
  else some ({ handle := "", suffix := suffix.counted }, q.advance 1)

/-- The tag with a handle, or of its own, at a place.  A lone exclamation mark is a tag in full. -/
def readShort (p : Cursor) : Option (TagText × Cursor) := do
  let (handle, q) ← readHandle p
  if isNamedHandle handle then
    let (suffix, q) ← readSuffix false [] q
    if suffix = [] then none
    else some ({ handle := .ofList handle, suffix := suffix.counted }, q)
  else
    let (suffix, q) ← readSuffix false (TagChars.ofList handle.tail).reverse q
    if suffix.counted = [] then some ({ handle := "", suffix := [some '!'] }, q)
    else some ({ handle := "!", suffix := suffix.counted }, q)

/-- The tag at a place and the place after it, where a word must end. -/
def read (inFlow : Bool) (p : Cursor) : Option (TagText × Cursor) := do
  let (tag, q) ← if p.second? == some '<' then readBracketed p else readShort p
  if endsWord q.next? || (inFlow && q.isAt ',') then some (tag, q) else none

end TagText

/-! ## What a tag says -/

/-- What a tag says about a node. -/
inductive Tag where
  /-- The tag of truth values. -/
  | truth
  /-- The tag of whole numbers. -/
  | integer
  /-- The tag of numbers that need not be whole. -/
  | real
  /-- The tag of what stands for nothing. -/
  | null
  /-- A tag of its own, which stays with the value. -/
  | own (name : String)
  /-- A tag of its own that is no text and so says nothing. -/
  | illegible
  /-- Any other tag; a scalar that has it is a text. -/
  | foreign
deriving DecidableEq

namespace Tag

/-- What the tags of the core schema start with. -/
def coreStart : String := "tag:yaml.org,2002:"

/-- What a tag says that does not start with an exclamation mark. -/
def ofFullName (name : String) : Tag :=
  if name = coreStart ++ "bool" then .truth
  else if name = coreStart ++ "int" then .integer
  else if name = coreStart ++ "float" then .real
  else if name = coreStart ++ "null" then .null
  else .foreign

/-- The tag of its own with some characters after an exclamation mark.  A second mark does not
count, but one has to stay. -/
def ofOwnName : List Char → Tag
  | [] | ['!'] => .own "!"
  | '!' :: cs => .own (.ofList cs)
  | cs => .own (.ofList cs)

/-- What a tag says. -/
def ofChars (cs : TagChars) : Tag :=
  match cs, cs.mapM id with
  | some '!' :: _, some name => ofOwnName name.tail
  | some '!' :: _, none => .illegible
  | _, some name => ofFullName (.ofList name)
  | _, none => .foreign

/-- Whether a tag stays with the value. -/
def isOwn : Tag → Bool
  | own _ => true
  | _ => false

end Tag

/-! ## Directives -/

/-- A line before a document that sets the version of YAML, or what a handle stands for. -/
inductive Directive where
  | version (major minor : Nat)
  | abbreviation (handle : String) (expansion : TagChars)
deriving DecidableEq

namespace Directive

/-- A number of at most nine digits. -/
def readNumber (p : Cursor) : Option (Nat × Cursor) :=
  let (digits, q) := p.takeWhile fun c => '0' ≤ c && c ≤ '9'
  if digits = [] ∨ digits.length > 9 then none
  else some (digits.foldl (fun n c => 10 * n + (c.toNat - '0'.toNat)) 0, q)

/-- The numbers of a version with a point between. -/
def readVersion (p : Cursor) : Option (Directive × Cursor) := do
  let (major, p) ← readNumber (p.skipWhile isBlank)
  if !p.isAt '.' then none
  else
    let (minor, p) ← readNumber (p.advance 1)
    return (.version major minor, p)

/-- A handle and what it stands for. -/
def readExpansion (p : Cursor) : Option (Directive × Cursor) := do
  let (handle, p) ← TagText.readHandle (p.skipWhile isBlank)
  if (!TagText.isNamedHandle handle ∧ handle ≠ ['!']) ∨ !p.next?.any isBlank then none
  else
    let (expansion, p) ← TagText.readSuffix true [] (p.skipWhile isBlank)
    if expansion = [] ∨ !endsWord p.next? then none
    else return (.abbreviation (.ofList handle) expansion.counted, p)

/-- The directive at a place after its percent sign, and the place at the start of the next line. -/
def read (p : Cursor) : Option (Directive × Cursor) := do
  let (name, p) := p.takeWhile isNameChar
  if !endsWord p.next? then none
  else
    let (directive, p) ←
      if name = ['Y', 'A', 'M', 'L'] then readVersion p
      else if name = ['T', 'A', 'G'] then readExpansion p
      else none
    return (directive, ← p.lineEnd?)

end Directive

end RadarConform.Yaml
