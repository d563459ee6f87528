import ObservationSql.Yaml.Character

namespace ObservationSql.Yaml

/-- The styles of scalars: without quotes, in quotes, and indented in blocks. -/
inductive ScalarStyle where
  | plain
  | singleQuoted
  | doubleQuoted
  | literal
  | folded
  deriving DecidableEq, Repr

/-- A tag as it is written: a handle, which stands for the first part of the tag, and the rest. A
tag is a sequence of octets, since its escapes need not write characters. -/
structure WrittenTag where
  handle : String
  suffix : List UInt8
  deriving DecidableEq, Repr

/-- The tokens of a document. The blocks that indentation opens and closes have tokens of their own,
so what is made of the tokens no longer looks at columns. -/
inductive Token where
  | versionDirective (major minor : Nat)
  | tagDirective (handle : String) (replacement : List UInt8)
  | documentStart
  | documentEnd
  | blockSequenceStart
  | blockMappingStart
  | blockEnd
  | flowSequenceStart
  | flowSequenceEnd
  | flowMappingStart
  | flowMappingEnd
  | blockEntry
  | flowEntry
  | key
  | value
  | reference (name : String)
  | anchor (name : String)
  | tag (written : WrittenTag)
  | scalar (style : ScalarStyle) (text : String)
  deriving DecidableEq, Repr

end ObservationSql.Yaml
