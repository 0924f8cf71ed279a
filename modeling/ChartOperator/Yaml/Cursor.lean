import ChartOperator.Yaml.Character

/-!
# Positions in a YAML text

A cursor is the rest of a text together with the place where it starts: the number of characters
before it, its line and its column.  Moving a cursor never lengthens the rest, which is why every
scan that moves it at each turn comes to an end.
-/

namespace ChartOperator.Yaml

/-- A place in a text. -/
structure Cursor where
  rest : List Char
  index : Nat
  line : Nat
  column : Nat

namespace Cursor

/-- The start of a text. -/
def start (text : List Char) : Cursor := ⟨text, 0, 0, 0⟩

/-- The next character. -/
def peek (c : Cursor) : Option Char := c.rest.head?

/-- The character at an offset from the next one. -/
def peekAt (c : Cursor) (offset : Nat) : Option Char := c.rest[offset]?

/-- Moves past some characters of one line. -/
def skip (c : Cursor) (count : Nat) : Cursor :=
  ⟨c.rest.drop count, c.index + count, c.line, c.column + count⟩

/-- Moves to the start of the next line, past a given number of characters. -/
def newLine (c : Cursor) (count : Nat) : Cursor :=
  ⟨c.rest.drop count, c.index + count, c.line + 1, 0⟩

/-- Moves past a line break.  Gives the break in its normal form: a line feed, except that the
separators of Unicode stay as they are. -/
def readBreak (c : Cursor) : List Char × Cursor :=
  match c.rest with
  | '\r' :: '\n' :: _ => (['\n'], c.newLine 2)
  | '\u2028' :: _ => (['\u2028'], c.newLine 1)
  | '\u2029' :: _ => (['\u2029'], c.newLine 1)
  | b :: _ => if isBreak b then (['\n'], c.newLine 1) else ([], c)
  | [] => ([], c)

/-- Moves past the longest run of characters with a property that no line break has. -/
def readWhile (c : Cursor) (p : Char → Bool) : List Char × Cursor :=
  (c.rest.takeWhile p, c.skip (c.rest.takeWhile p).length)

/-- Moves past the longest run of characters with a property that no line break has. -/
def skipWhile (c : Cursor) (p : Char → Bool) : Cursor :=
  (c.readWhile p).2

/-- Moves to the end of the line. -/
def skipLine (c : Cursor) : Cursor :=
  c.skipWhile (!isBreak ·)

/-- Moves to the end of the line if a comment starts here. -/
def skipComment (c : Cursor) : Cursor :=
  if c.peek = some '#' then c.skipLine else c

/-- Whether a marker `---` or `...` stands alone at the start of the line. -/
def atDocumentMarker (c : Cursor) : Bool :=
  c.column == 0 && (c.rest.take 3 == ['-', '-', '-'] || c.rest.take 3 == ['.', '.', '.']) &&
    endsWord (c.peekAt 3)

/-- A line break is always passed. -/
theorem readBreak_length_lt {c : Cursor} {b : Char} (h : c.peek = some b)
    (hb : isBreak b = true) : c.readBreak.2.rest.length < c.rest.length := by
  obtain ⟨rest, index, line, column⟩ := c
  cases rest with
  | nil => simp [peek] at h
  | cons b' rest =>
      simp only [peek, List.head?_cons, Option.some.injEq] at h
      subst h
      unfold readBreak
      split
      · rename_i heq
        simp only [List.cons.injEq] at heq
        simp only [newLine, heq.2, List.length_drop, List.length_cons]
        omega
      · simp [newLine]
      · simp [newLine]
      · rename_i heq
        simp only [List.cons.injEq] at heq
        rw [← heq.1, hb]
        simp [newLine]
      · rename_i heq
        simp at heq

/-- A character is always passed. -/
theorem skip_length_lt {c : Cursor} {x : Char} (h : c.peek = some x) (n : Nat) (hn : 0 < n) :
    (c.skip n).rest.length < c.rest.length := by
  obtain ⟨rest, index, line, column⟩ := c
  cases rest with
  | nil => simp [peek] at h
  | cons y rest =>
      simp only [skip, List.length_drop, List.length_cons]
      omega

end Cursor

end ChartOperator.Yaml
