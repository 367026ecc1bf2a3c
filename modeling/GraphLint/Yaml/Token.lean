import GraphLint.Yaml.Fault
/-! # Tokens of a YAML stream

The words that a stream is made of.  A token carries the marks where it starts and where it
stops; the tokens that indentation implies are empty. -/
namespace GraphLint.Yaml

/-- How a scalar is written. -/
inductive Style where
  | plain
  | singleQuoted
  | doubleQuoted
  | literal
  | folded
  deriving DecidableEq, Repr

/-- What a token is. -/
inductive TokenKind where
  | streamEnd
  | versionDirective (major minor : Nat)
  /-- A `%TAG` directive: the handle, and the octets that it stands for. -/
  | tagDirective (handle : Text) (expansion : List UInt8)
  | documentStart
  | documentEnd
  | blockSequenceStart
  | blockMappingStart
  | blockEnd
  | flowSequenceStart
  | flowSequenceEnd
  | flowMappingStart
  | flowMappingEnd
  | blockEntry
  | flowEntry
  | key
  | value
  | reference (name : Text)
  | anchor (name : Text)
  /-- A tag: its handle, empty for a tag written in full, and the octets after the handle. -/
  | tag (handle : Text) (suffix : List UInt8)
  | scalar (text : Text) (style : Style)
  deriving DecidableEq, Repr

/-- A token and the marks of its two ends. -/
structure Token where
  kind : TokenKind
  start : Mark
  stop : Mark
  deriving DecidableEq, Repr

end GraphLint.Yaml
