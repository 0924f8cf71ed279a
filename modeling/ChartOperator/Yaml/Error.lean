/-!
# YAML errors

What can be wrong with a YAML text, from its characters up to the types of its values.
-/

namespace ChartOperator.Yaml

/-- The causes for which a YAML text is refused. -/
inductive Error where
  /-- A character that may not occur in a YAML text. -/
  | forbiddenCharacter
  /-- A part of the text that is no token where it stands. -/
  | lexical (problem : String)
  /-- A token that does not fit the grammar. -/
  | grammatical (problem : String)
  /-- An alias without a preceding anchor of its name. -/
  | unknownAlias (name : String)
  /-- Aliases are followed far more often than the document has parts. -/
  | repetition
  /-- Collections are nested too deeply. -/
  | depth
  | severalDocuments
  /-- Two equal keys in one mapping. -/
  | duplicateKey
  /-- A value of another type than the one asked for. -/
  | mismatch (expected : String)
  | missingField (name : String)
  deriving DecidableEq

/-- The text that stands for any YAML error in the messages of the operator; position and cause
are not part of it. -/
def Error.message (_ : Error) : String := "<yaml>"

end ChartOperator.Yaml
