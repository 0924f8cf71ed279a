/-!
# YAML tokens

The tokens between which the layout of a YAML text has been resolved: the starts and ends of
block collections are tokens of their own, and the key of a mapping entry is always announced.
-/

namespace ChartOperator.Yaml

/-- The ways of writing a scalar. -/
inductive Style where
  | plain
  | singleQuoted
  | doubleQuoted
  | literal
  | folded
  deriving DecidableEq

/-- A tag as written: its handle, empty for a verbatim tag, and the rest. -/
structure TagName where
  handle : String
  suffix : String
  deriving DecidableEq

/-- The tokens of a YAML text. -/
inductive Token where
  | versionDirective (major minor : Nat)
  | tagDirective (handle start : String)
  | documentStart
  | documentEnd
  | blockSequenceStart
  | blockMappingStart
  | blockEnd
  | flowSequenceStart
  | flowSequenceEnd
  | flowMappingStart
  | flowMappingEnd
  | blockEntry
  | flowEntry
  | key
  | value
  | alias (name : String)
  | anchor (name : String)
  | tag (name : TagName)
  | scalar (style : Style) (text : String)
  | streamEnd
  deriving DecidableEq

end ChartOperator.Yaml
