import RadarConform.Yaml.Tag

/-!
# Tokens of a YAML text

The tokens of a text are the marks and scalars in it, together with tokens that stand for its
indentation: those at which block collections start and end, and those before the keys of
mappings.

* `ScalarStyle`: how a scalar is written.
* `Token`: the tokens.
-/

namespace RadarConform.Yaml

/-- How a scalar is written. -/
inductive ScalarStyle where
  | plain
  | quoted
  | literal
  | folded
deriving DecidableEq

/-- The tokens of a text. -/
inductive Token where
  | directive (d : Directive)
  | documentStart
  | documentEnd
  | blockSequenceStart
  | blockMappingStart
  | blockEnd
  | flowSequenceStart
  | flowSequenceEnd
  | flowMappingStart
  | flowMappingEnd
  | blockEntry
  | flowEntry
  | key
  | value
  | reference (name : String)
  | anchor (name : String)
  | tag (text : TagText)
  | scalar (style : ScalarStyle) (text : String)
deriving DecidableEq

end RadarConform.Yaml
