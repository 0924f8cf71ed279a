import ChartOperator.Glob.Pattern

/-!
# Matching

A pattern matches a text if the text can be cut into pieces, one for each token in order.  To
decide this the tokens are taken one after the other, with a mark on every place in the text that
the pieces so far may reach.
-/

namespace ChartOperator.Glob

/-- Whether one character alone is a piece for a token. -/
def Token.accepts : Token → Char → Bool
  | .literal c, character => character == c
  | .anyRun, character => character ≠ '/'
  | .anyOne, character => character ≠ '/'
  | .oneOf characters, character => characters.contains character

/-- The marks behind a single character, for all places but the first. -/
def marksAfterOne (accepts : Char → Bool) : List Char → List Bool → List Bool
  | c :: cs, mark :: marks => (mark && accepts c) :: marksAfterOne accepts cs marks
  | _, _ => []

/-- The marks behind a run of any length; `reached` tells whether a run that has begun earlier
reaches the present place. -/
def marksAfterRun (accepts : Char → Bool) (reached : Bool) : List Char → List Bool → List Bool
  | [], mark :: _ => [mark || reached]
  | c :: cs, mark :: marks =>
      (mark || reached) :: marksAfterRun accepts ((mark || reached) && accepts c) cs marks
  | _, [] => []

/-- The marks behind the piece for a token. -/
def marksAfter (token : Token) (text : List Char) (marks : List Bool) : List Bool :=
  match token with
  | .anyRun => marksAfterRun token.accepts false text marks
  | _ => false :: marksAfterOne token.accepts text marks

/-- Whether the tokens of a pattern match a text as a whole. -/
def isMatch (tokens : List Token) (text : List Char) : Bool :=
  let start := true :: text.map fun _ => false
  ((tokens.foldl (fun marks token => marksAfter token text marks) start).getLast?).getD false

end ChartOperator.Glob
