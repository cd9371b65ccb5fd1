import ModuleCatalog.Yaml.Text

/-!
The tokens of a YAML stream.
-/
namespace ModuleCatalog.Yaml

/-- How a scalar is written. -/
inductive Style where
  | plain
  | singleQuoted
  | doubleQuoted
  | literal
  | folded
  deriving DecidableEq, Repr

/-- A token. The start and the end of a block collection have no character of their own. -/
inductive Token where
  | versionDirective (major minor : Nat)
  | tagDirective (handle : List Char) (meaning : List UInt8)
  | documentStart
  | documentEnd
  | blockSequenceStart
  | blockMappingStart
  | blockEnd
  | flowSequenceStart
  | flowSequenceEnd
  | flowMappingStart
  | flowMappingEnd
  | blockEntry
  | flowEntry
  | key
  | value
  | alias (name : List Char)
  | anchor (name : List Char)
  | tag (handle : List Char) (suffix : List UInt8)
  | scalar (style : Style) (value : List Char)
  deriving DecidableEq, Repr

end ModuleCatalog.Yaml
