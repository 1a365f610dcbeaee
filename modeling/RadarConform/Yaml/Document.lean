import RadarConform.Yaml.Node
import RadarConform.Yaml.TokenStream

/-!
# Reading a YAML document

* `TagHandles`: what the handles of tags stand for.
* `readNode`: the node at the start of a list of tokens.
* `Document.read`: the document of a text, of which there may be one at most.

Nodes that are not written, as the value after `key:` at the end of a line, are empty plain scalars.
-/

namespace RadarConform.Yaml

/-! ## Tags -/

/-- What the handles of tags stand for. -/
abbrev TagHandles := List (String × TagChars)

namespace TagHandles

/-- The handles that need no directive. -/
def standard : TagHandles := [("!", [some '!']), ("!!", .ofList Tag.coreStart.toList)]

/-- The tag that is written with a handle. -/
def resolve? (handles : TagHandles) (t : TagText) : Option Tag :=
  if t.handle = "" then some (.ofChars t.suffix)
  else (handles.lookup t.handle).map fun expansion => .ofChars (expansion ++ t.suffix)

end TagHandles

/-! ## Nodes -/

/-- The node that is not written. -/
def Node.missing : Node String := .scalar .none .plain ""

/-- Whether the next token is one of those given. -/
def comesNext (ts kinds : List Token) : Bool := ts.head?.any kinds.contains

/-- The anchor and the tag at the start of a node, in any order. -/
def readProperties (handles : TagHandles) : List Token → Option (Properties String × List Token)
  | .anchor a :: .tag t :: ts => do
    let tag ← handles.resolve? t
    return ({ anchor := some a, tag := some tag }, ts)
  | .tag t :: .anchor a :: ts => do
    let tag ← handles.resolve? t
    return ({ anchor := some a, tag := some tag }, ts)
  | .anchor a :: ts => some ({ anchor := some a, tag := none }, ts)
  | .tag t :: ts => do
    let tag ← handles.resolve? t
    return ({ anchor := none, tag := some tag }, ts)
  | ts => some (.none, ts)

/-- Where a node stands: in a flow collection, in a block, or in a block mapping, where a sequence
needs no indentation of its own. -/
inductive Place where
  | flow
  | block
  | entry
deriving DecidableEq

mutual

/-- The node at the start of a list of tokens, and the tokens after it.  The fuel bounds the number
of nodes that are read one inside or after the other. -/
def readNode (handles : TagHandles) (place : Place) :
    (fuel : Nat) → List Token → Option (Node String × List Token)
  | 0, _ => none
  | _ + 1, .reference name :: ts => some (.reference name, ts)
  | fuel + 1, ts => do
    let (p, ts) ← readProperties handles ts
    match place, ts with
    | .entry, .blockEntry :: _ =>
      let (items, ts) ← readIndentless handles fuel ts
      return (.sequence p items, ts)
    | _, .scalar style text :: ts => some (.scalar p style text, ts)
    | _, .flowSequenceStart :: ts =>
      let (items, ts) ← readFlowItems handles true fuel ts
      return (.sequence p items, ts)
    | _, .flowMappingStart :: ts =>
      let (entries, ts) ← readFlowEntries handles true fuel ts
      return (.mapping p entries, ts)
    | .block, .blockSequenceStart :: ts | .entry, .blockSequenceStart :: ts =>
      let (items, ts) ← readBlockItems handles fuel ts
      return (.sequence p items, ts)
    | .block, .blockMappingStart :: ts | .entry, .blockMappingStart :: ts =>
      let (entries, ts) ← readBlockEntries handles fuel ts
      return (.mapping p entries, ts)
    | _, ts =>
      if p.anchor.isSome || p.tag.isSome then some (.scalar p .plain "", ts) else none

/-- The node at the start of a list of tokens, which is missing when one of some tokens comes
next. -/
def readNodeOr (handles : TagHandles) (place : Place) (missingBefore : List Token) :
    (fuel : Nat) → List Token → Option (Node String × List Token)
  | 0, _ => none
  | fuel + 1, ts =>
    if comesNext ts missingBefore then some (.missing, ts) else readNode handles place fuel ts

/-- The items of a block sequence up to its end. -/
def readBlockItems (handles : TagHandles) :
    (fuel : Nat) → List Token → Option (List (Node String) × List Token)
  | fuel + 1, .blockEntry :: ts => do
    let (item, ts) ← readNodeOr handles .block [.blockEntry, .blockEnd] fuel ts
    let (later, ts) ← readBlockItems handles fuel ts
    return (item :: later, ts)
  | _, .blockEnd :: ts => some ([], ts)
  | _, _ => none

/-- The items of a sequence without indentation of its own. -/
def readIndentless (handles : TagHandles) :
    (fuel : Nat) → List Token → Option (List (Node String) × List Token)
  | fuel + 1, .blockEntry :: ts => do
    let (item, ts) ← readNodeOr handles .block [.blockEntry, .key, .value, .blockEnd] fuel ts
    let (later, ts) ← readIndentless handles fuel ts
    return (item :: later, ts)
  | 0, .blockEntry :: _ => none
  | _, ts => some ([], ts)

/-- The entries of a block mapping up to its end. -/
def readBlockEntries (handles : TagHandles) :
    (fuel : Nat) → List Token → Option (List (Node String × Node String) × List Token)
  | fuel + 1, .key :: ts => do
    let stops := [.key, .value, .blockEnd]
    let (key, ts) ← readNodeOr handles .entry stops fuel ts
    let (value, ts) ← match ts with
      | .value :: ts => readNodeOr handles .entry stops fuel ts
      | ts => some (.missing, ts)
    let (later, ts) ← readBlockEntries handles fuel ts
    return ((key, value) :: later, ts)
  | _, .blockEnd :: ts => some ([], ts)
  | _, _ => none

/-- The items of a flow sequence up to its end; there is a comma before every item but the first.
An item with a colon in it is a mapping of one entry. -/
def readFlowItems (handles : TagHandles) (first : Bool) :
    (fuel : Nat) → List Token → Option (List (Node String) × List Token)
  | 0, _ => none
  | _ + 1, .flowSequenceEnd :: ts => some ([], ts)
  | fuel + 1, ts => do
    let ts ← match first, ts with
      | true, ts => some ts
      | false, .flowEntry :: ts => some ts
      | false, _ => none
    match ts with
    | .flowSequenceEnd :: ts => return ([], ts)
    | .key :: ts =>
      let (entry, ts) ← readFlowPair handles fuel ts
      let (later, ts) ← readFlowItems handles false fuel ts
      return (.mapping .none [entry] :: later, ts)
    | ts =>
      let (item, ts) ← readNode handles .flow fuel ts
      let (later, ts) ← readFlowItems handles false fuel ts
      return (item :: later, ts)

/-- An entry in a flow sequence, after the token before its key.  What stands in the place of a
missing key is passed over. -/
def readFlowPair (handles : TagHandles) :
    (fuel : Nat) → List Token → Option ((Node String × Node String) × List Token)
  | 0, _ => none
  | fuel + 1, ts => do
    let (key, ts) ←
      if comesNext ts [.value, .flowEntry, .flowSequenceEnd] then some (Node.missing, ts.tail)
      else readNode handles .flow fuel ts
    let (value, ts) ← match ts with
      | .value :: ts => readNodeOr handles .flow [.flowEntry, .flowSequenceEnd] fuel ts
      | ts => some (.missing, ts)
    return ((key, value), ts)

/-- The entries of a flow mapping up to its end; there is a comma before every entry but the
first.  A node without a colon is a key without value. -/
def readFlowEntries (handles : TagHandles) (first : Bool) :
    (fuel : Nat) → List Token → Option (List (Node String × Node String) × List Token)
  | 0, _ => none
  | _ + 1, .flowMappingEnd :: ts => some ([], ts)
  | fuel + 1, ts => do
    let ts ← match first, ts with
      | true, ts => some ts
      | false, .flowEntry :: ts => some ts
      | false, _ => none
    match ts with
    | .flowMappingEnd :: ts => return ([], ts)
    | .key :: ts =>
      let (key, ts) ← readNodeOr handles .flow [.value, .flowEntry, .flowMappingEnd] fuel ts
      let (value, ts) ← match ts with
        | .value :: ts => readNodeOr handles .flow [.flowEntry, .flowMappingEnd] fuel ts
        | ts => some (.missing, ts)
      let (later, ts) ← readFlowEntries handles false fuel ts
      return ((key, value) :: later, ts)
    | ts =>
      let (key, ts) ← readNode handles .flow fuel ts
      let (later, ts) ← readFlowEntries handles false fuel ts
      return ((key, .missing) :: later, ts)

end

/-! ## Documents -/

/-- What the directives before a document say about the handles of tags.  The version may be given
once, as 1.1 or 1.2, and every handle once. -/
def readDirectives (versioned : Bool) (handles : TagHandles) :
    List Token → Option (TagHandles × List Token)
  | .directive (.version major minor) :: ts =>
    if versioned ∨ major ≠ 1 ∨ (minor ≠ 1 ∧ minor ≠ 2) then none
    else readDirectives true handles ts
  | .directive (.abbreviation handle expansion) :: ts =>
    if (handles.lookup handle).isSome then none
    else readDirectives versioned ((handle, expansion) :: handles) ts
  | ts => some (handles, ts)

/-- A number of nodes that cannot be exceeded: before every other node that is read, a token is. -/
def sufficientFuel (ts : List Token) : Nat := 4 * ts.length + 4

/-- The node of a document after the token that starts it. -/
def readContent (handles : TagHandles) (ts : List Token) : Option (Node String × List Token) :=
  match ts with
  | [] | .directive _ :: _ | .documentStart :: _ | .documentEnd :: _ => some (.missing, ts)
  | ts => readNode (handles ++ .standard) .block (sufficientFuel ts) ts

/-- The only document of a list of tokens: nothing when there is none, and an error when the tokens
make no document or more than one. -/
def readDocument (ts : List Token) : Option (Option (Node String)) :=
  match ts with
  | [] => some none
  | t :: _ => do
    let (node, rest) ←
      match t with
      | .directive _ | .documentStart =>
        match ← readDirectives false [] ts with
        | (handles, .documentStart :: ts) => readContent handles ts
        | _ => none
      | _ => readNode .standard .block (sufficientFuel ts) ts
    if (rest.dropWhile (· == .documentEnd)).isEmpty then some (some node) else none

/-- A document: a tree, or nothing at all. -/
abbrev Document := Option Tree

/-- The document of a text. -/
def Document.read (text : String) : Option Document := do
  match ← readDocument (← tokens? text) with
  | none => return none
  | some node => return some (← node.resolved?)

end RadarConform.Yaml
