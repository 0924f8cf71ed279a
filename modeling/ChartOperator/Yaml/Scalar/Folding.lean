import ChartOperator.Yaml.Cursor

/-!
# Line folding

Inside quoted and plain scalars, white space between words is kept within a line and folded
across lines: one line break becomes a space, and of several breaks all but the first are kept.
-/

namespace ChartOperator.Yaml

/-- The white space between two words of a scalar. -/
structure Gap where
  /-- Spaces and tabs since the last word, as long as no line has ended. -/
  blanks : List Char := []
  /-- Whether a line has ended. -/
  broken : Bool := false
  /-- The first line break, unless it was escaped. -/
  first : List Char := []
  /-- The line breaks after the first. -/
  later : List Char := []

/-- What the white space contributes to the scalar. -/
def Gap.fold (gap : Gap) : List Char :=
  if gap.broken then
    if gap.first = ['\n'] then
      if gap.later.isEmpty then [' '] else gap.later
    else gap.first ++ gap.later
  else gap.blanks

/-- Reads the white space at the cursor onto a gap.  In a plain block scalar `indent` is the
least column of its lines, before which no tab may stand; `none` is the answer if one does. -/
def readGap (indent : Nat) (gap : Gap) (c : Cursor) : Option (Gap × Cursor) :=
  match _h : c.peek with
  | none => some (gap, c)
  | some x =>
      if isSpaceOrTab x then
        if gap.broken && c.column < indent && x == '\t' then none
        else if gap.broken then readGap indent gap (c.skip 1)
        else readGap indent { gap with blanks := gap.blanks ++ [x] } (c.skip 1)
      else if _hb : isBreak x then
        let next := c.readBreak
        if gap.broken then readGap indent { gap with later := gap.later ++ next.1 } next.2
        else readGap indent { gap with blanks := [], broken := true, first := next.1 } next.2
      else some (gap, c)
  termination_by c.rest.length
  decreasing_by
    · exact Cursor.skip_length_lt _h 1 Nat.one_pos
    · exact Cursor.skip_length_lt _h 1 Nat.one_pos
    · exact Cursor.readBreak_length_lt _h _hb
    · exact Cursor.readBreak_length_lt _h _hb

end ChartOperator.Yaml
