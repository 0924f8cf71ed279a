import ChartOperator.Yaml.Error
import ChartOperator.Yaml.Scalar.Folding
import ChartOperator.Yaml.Token

/-!
# Plain scalars

Scalars without quotes.  A plain scalar ends at a comment, at the colon of a mapping entry, at a
delimiter of a flow collection, at a document marker, and outside flow collections at a line that
is not indented deeply enough.
-/

namespace ChartOperator.Yaml

/-- Whether the next character can start a plain scalar. -/
def startsPlain (inFlow : Bool) (c : Cursor) : Bool :=
  match c.peek with
  | none => false
  | some x =>
      !(isSpacing x || isIndicator x) ||
        (x == '-' && !(c.peekAt 1).any isSpaceOrTab) ||
        (!inFlow && (x == '?' || x == ':') && !endsWord (c.peekAt 1))

/-- Reads a word of a plain scalar. -/
def readPlainWord (inFlow : Bool) (text : List Char) (c : Cursor) :
    Except Error (List Char × Cursor) :=
  match _h : c.peek with
  | none => .ok (text, c)
  | some x =>
      if isSpacing x then .ok (text, c)
      else if inFlow && x == ':' &&
          (c.peekAt 1).any (fun y => isFlowDelimiter y || y == '?') then
        .error (.lexical "found unexpected ':'")
      else if (x == ':' && endsWord (c.peekAt 1)) || (inFlow && isFlowDelimiter x) then
        .ok (text, c)
      else readPlainWord inFlow (text ++ [x]) (c.skip 1)
  termination_by c.rest.length
  decreasing_by exact Cursor.skip_length_lt _h 1 Nat.one_pos

/-- A plain scalar as read. -/
structure PlainScalar where
  text : List Char
  after : Cursor
  /-- Whether a line has ended since the last word. -/
  broken : Bool

/-- Reads the words of a plain scalar; `gap` is the white space since the last one.  Lines that
start before the column `indent` do not belong to the scalar, unless it stands in a flow
collection. -/
def readPlainRest (inFlow : Bool) (indent : Nat) (text : List Char) (gap : Gap) (c : Cursor) :
    Except Error PlainScalar :=
  if c.atDocumentMarker || c.peek == some '#' then .ok ⟨text, c, gap.broken⟩
  else
    match readPlainWord inFlow [] c with
    | .error e => .error e
    | .ok (word, afterWord) =>
        if word.isEmpty then .ok ⟨text, c, gap.broken⟩
        else
          let longer := text ++ gap.fold ++ word
          match readGap indent {} afterWord with
          | none => .error (.lexical "found a tab character that violates indentation")
          | some (next, after) =>
              if after.rest.length = afterWord.rest.length ||
                  (!inFlow && after.column < indent) then
                .ok ⟨longer, after, next.broken⟩
              else if after.rest.length < c.rest.length then
                readPlainRest inFlow indent longer next after
              else .ok ⟨longer, after, next.broken⟩
  termination_by c.rest.length

/-- Reads a plain scalar. -/
def readPlain (inFlow : Bool) (indent : Nat) (c : Cursor) : Except Error PlainScalar :=
  readPlainRest inFlow indent [] {} c

end ChartOperator.Yaml
