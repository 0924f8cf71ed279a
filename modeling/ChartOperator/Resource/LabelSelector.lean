import ChartOperator.StringMap

/-!
# Label selectors

A selector restricts a list of resources by their labels: by exact values and by requirements
with an operator.  Its text form is the one of list requests, where a comma stands between the
parts and between the values of a part.
-/

namespace ChartOperator

/-- A requirement on the label with a key. -/
structure Requirement where
  key : String
  operator : String
  values : Option (List String) := none
  deriving DecidableEq

/-- A label selector.  An absent part restricts nothing, as an empty one does. -/
structure LabelSelector where
  matchLabels : Option StringMap := none
  matchExpressions : Option (List Requirement) := none
  deriving DecidableEq

/-- Why a selector has no text form. -/
inductive SelectorError where
  /-- A set operator without values. -/
  | noValues (operator key : String)
  | unknownOperator (operator key : String)
  deriving DecidableEq

/-- The wording of a selector error. -/
def SelectorError.reason : SelectorError → String
  | .noValues operator key => s!"operator {operator} on key {key} requires at least one value"
  | .unknownOperator operator key => s!"unknown operator {operator} on key {key}"

/-- The values of a requirement. -/
def Requirement.valueList (requirement : Requirement) : List String :=
  requirement.values.getD []

/-- The values of a set requirement, in parentheses. -/
def renderValues (values : List String) : String :=
  "(" ++ String.intercalate "," values ++ ")"

/-- The text form of a requirement. -/
def Requirement.render (requirement : Requirement) : Except SelectorError String :=
  let key := requirement.key
  let values := requirement.valueList
  match requirement.operator with
  | "In" =>
      if values.isEmpty then .error (.noValues "In" key)
      else .ok (key ++ " in " ++ renderValues values)
  | "NotIn" =>
      if values.isEmpty then .error (.noValues "NotIn" key)
      else .ok (key ++ " notin " ++ renderValues values)
  | "Exists" => .ok key
  | "DoesNotExist" => .ok ("!" ++ key)
  | operator => .error (.unknownOperator operator key)

/-- The text form of a required label. -/
def renderLabel (entry : String × String) : String :=
  entry.1 ++ "=" ++ entry.2

namespace LabelSelector

/-- The text forms of the parts of a selector, labels first.  The first requirement without a text
form is the error. -/
def renderParts (selector : LabelSelector) : Except SelectorError (List String) := do
  let requirements ← (selector.matchExpressions.getD []).mapM Requirement.render
  .ok ((selector.matchLabels.getD []).map renderLabel ++ requirements)

/-- The text form of a selector; none for a selector that restricts nothing. -/
def render (selector : LabelSelector) : Except SelectorError (Option String) := do
  let parts ← selector.renderParts
  .ok (if parts.isEmpty then none else some (String.intercalate "," parts))

end LabelSelector

end ChartOperator
