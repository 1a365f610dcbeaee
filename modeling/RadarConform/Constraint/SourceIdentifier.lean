import RadarConform.Constraint.Evaluation

/-!
# Source identifiers

The attribute that names the source of a file is a list of tokens `TAG:value` with commas between
them.  Its constraint is a pattern for the list without the single blanks that may follow commas,
and besides every token must be well formed.

* `SourceIdentifier.normalize`: the list without a blank after each comma.
* `SourceIdentifier.check`: the first token that is not well formed.
* `SourceIdentifier.evaluate`: the constraint and the tokens together.
-/

namespace RadarConform.SourceIdentifier

/-- A text without one space after each comma; `afterComma` says that a comma came before it. -/
def normalizeFrom (afterComma : Bool) : List Char → List Char
  | [] => []
  | c :: cs =>
    if afterComma && c == ' ' then normalizeFrom false cs
    else c :: normalizeFrom (c == ',') cs

/-- A text without one space after each comma. -/
def normalize (s : String) : String := .ofList (normalizeFrom false s.toList)

/-- What is wrong with a token. -/
inductive TokenFault where
  | noColon
  | emptyPart
  | stationNumber
deriving DecidableEq

/-- A token that is not well formed. -/
structure TokenError where
  token : String
  fault : TokenFault
deriving DecidableEq

/-- The message of an error. -/
def TokenError.message (e : TokenError) : String :=
  "token " ++ Text.quoted e.token ++
    match e.fault with
    | .noColon => " is not of the form TAG:value"
    | .emptyPart => " has an empty tag or value"
    | .stationNumber => " must carry a 5 or 7 digit WMO station number"

/-- The number of a weather station: 5 or 7 digits. -/
def isStationNumber (cs : List Char) : Bool :=
  cs.all Decimal.isDigit && (cs.length == 5 || cs.length == 7)

/-- What is wrong with a token: it must have a tag before its first colon and a value after it, and
the value for the tag `WMO` must be the number of a station. -/
def tokenFault? (token : List Char) : Option TokenFault :=
  match Text.cutOnce (· == ':') token with
  | none => some .noColon
  | some (tag, value) =>
    if Text.trim tag = [] ∨ Text.trim value = [] then some .emptyPart
    else if Text.trim tag = ['W', 'M', 'O'] ∧ !isStationNumber (Text.trim value) then
      some .stationNumber
    else none

/-- The first token of a list that is not well formed. -/
def check (s : String) : Except TokenError Unit :=
  match (Text.pieces (· == ',') s.toList).findSome? (fun t => (tokenFault? t).map (t, ·)) with
  | some (token, fault) => .error { token := .ofList token, fault }
  | none => .ok ()

/-- Evaluates a constraint on a source identifier: the pattern on the normalized text first, then
the tokens of that text. -/
def evaluate (info : Bool) (source constraint : String) : Logged ConstraintError Outcome := do
  let normalized := normalize source
  let c ← Constraint.parse constraint .text
  let o ← c.evaluate info (.text normalized)
  if !o.matched then return o
  else
    match check normalized with
    | .ok () => return o
    | .error e =>
      .reportIf info (.malformedSource source e.message)
      return .fail ("source identifier " ++ Text.quoted source ++ " is malformed: " ++ e.message)

end RadarConform.SourceIdentifier
