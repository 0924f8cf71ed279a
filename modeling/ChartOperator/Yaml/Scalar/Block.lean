import ChartOperator.Yaml.Error
import ChartOperator.Yaml.Cursor
import ChartOperator.Yaml.Token

/-!
# Block scalars

Literal scalars, which keep their line breaks, and folded ones, which join lines that start with
a word.  The header may fix the indentation of the lines and says what becomes of the line breaks
at the end.
-/

namespace ChartOperator.Yaml

/-- What becomes of the line breaks at the end of a block scalar. -/
inductive Chomping where
  /-- All are dropped. -/
  | strip
  /-- The first one is kept. -/
  | clip
  /-- All are kept. -/
  | keep
  deriving DecidableEq

/-- The header of a block scalar. -/
structure BlockHeader where
  chomping : Chomping
  /-- The indentation of the lines relative to the surrounding block, if it is given. -/
  increment : Option Nat

/-- Reads a chomping indicator. -/
def readChomping? (c : Cursor) : Option (Chomping × Cursor) :=
  match c.peek with
  | some '+' => some (.keep, c.skip 1)
  | some '-' => some (.strip, c.skip 1)
  | _ => none

/-- Reads an indentation indicator, a digit from one to nine. -/
def readIncrement? (c : Cursor) : Except Error (Option (Nat × Cursor)) :=
  match c.peek with
  | some '0' => .error (.lexical "found an indentation indicator equal to 0")
  | some x =>
      if x.isDigit then .ok (some (x.toNat - '0'.toNat, c.skip 1)) else .ok none
  | none => .ok none

/-- Reads the two indicators of a header, which may come in either order. -/
def readIndicators (c : Cursor) : Except Error (BlockHeader × Cursor) := do
  match readChomping? c with
  | some (chomping, afterChomping) =>
      match ← readIncrement? afterChomping with
      | some (increment, after) => .ok (⟨chomping, some increment⟩, after)
      | none => .ok (⟨chomping, none⟩, afterChomping)
  | none =>
      match ← readIncrement? c with
      | some (increment, afterIncrement) =>
          match readChomping? afterIncrement with
          | some (chomping, after) => .ok (⟨chomping, some increment⟩, after)
          | none => .ok (⟨.clip, some increment⟩, afterIncrement)
      | none => .ok (⟨.clip, none⟩, c)

/-- Reads the rest of the header line, in which only a comment may stand. -/
def readHeaderEnd (c : Cursor) : Except Error Cursor :=
  let after := (c.skipWhile isSpaceOrTab).skipComment
  if endsLine after.peek then .ok after.readBreak.2
  else .error (.lexical "did not find expected comment or line break")

/-- Moves past indentation spaces, up to a given column if there is one. -/
def skipIndentation (indent : Option Nat) (c : Cursor) : Cursor :=
  let spaces := (c.rest.takeWhile (· == ' ')).length
  match indent with
  | none => c.skip spaces
  | some column => c.skip (min spaces (column - c.column))

/-- The lines without content before the next line of a block scalar. -/
structure EmptyLines where
  breaks : List Char
  /-- The greatest column to which one of them, or the line after them, is indented. -/
  widest : Nat
  after : Cursor

/-- Reads the lines without content at the cursor, and the indentation of the line after them. -/
def readEmptyLines (indent : Option Nat) (lines : List Char) (widest : Nat) (c : Cursor) :
    Except Error EmptyLines :=
  let indented := skipIndentation indent c
  let widest := max widest indented.column
  if indented.peek = some '\t' && (indent.all (indented.column < ·)) then
    .error (.lexical "found a tab character where an indentation space is expected")
  else if endsLine indented.peek && indented.peek.isSome then
    let next := indented.readBreak
    if next.2.rest.length < c.rest.length then
      readEmptyLines indent (lines ++ next.1) widest next.2
    else .ok ⟨lines, widest, indented⟩
  else .ok ⟨lines, widest, indented⟩
  termination_by c.rest.length

/-- The lines of a block scalar read so far. -/
structure BlockLines where
  text : List Char
  /-- The line break after the last line. -/
  lastBreak : List Char
  /-- The breaks of the empty lines after it. -/
  later : List Char
  /-- Whether the last line starts with white space. -/
  spaced : Bool
  after : Cursor

/-- Reads the lines of a block scalar that are indented to the given column. -/
def readBlockLines (folded : Bool) (indent : Nat) (lines : BlockLines) :
    Except Error BlockLines :=
  let c := lines.after
  if c.column = indent && c.peek.isSome then
    let spaced := c.peek.any isSpaceOrTab
    let joint :=
      if folded && lines.lastBreak == ['\n'] && !lines.spaced && !spaced then
        if lines.later.isEmpty then [' '] else []
      else lines.lastBreak
    let line := c.readWhile (!isBreak ·)
    let ending := line.2.readBreak
    match readEmptyLines (some indent) [] 0 ending.2 with
    | .error e => .error e
    | .ok empty =>
        let next : BlockLines :=
          ⟨lines.text ++ joint ++ lines.later ++ line.1, ending.1, empty.breaks, spaced,
            empty.after⟩
        if empty.after.rest.length < c.rest.length then readBlockLines folded indent next
        else .ok next
  else .ok lines
  termination_by lines.after.rest.length

/-- The text of a block scalar after chomping. -/
def BlockLines.chomp (lines : BlockLines) : Chomping → List Char
  | .strip => lines.text
  | .clip => lines.text ++ lines.lastBreak
  | .keep => lines.text ++ lines.lastBreak ++ lines.later

/-- Reads a block scalar whose indicator is next.  `indent` is the least column its lines may
have: one more than that of the surrounding block. -/
def readBlock (folded : Bool) (indent : Nat) (c : Cursor) : Except Error (Token × Cursor) := do
  let (header, afterHeader) ← readIndicators (c.skip 1)
  let firstLine ← readHeaderEnd afterHeader
  let fixed := header.increment.map fun n => if indent = 0 then n else indent - 1 + n
  let empty ← readEmptyLines fixed [] 0 firstLine
  let column := fixed.getD (max empty.widest (max indent 1))
  let lines ← readBlockLines folded column ⟨[], [], empty.breaks, false, empty.after⟩
  let style := if folded then Style.folded else Style.literal
  .ok (.scalar style (String.ofList (lines.chomp header.chomping)), lines.after)

end ChartOperator.Yaml
