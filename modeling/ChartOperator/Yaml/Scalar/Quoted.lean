import ChartOperator.Number.Binary64
import ChartOperator.Yaml.Error
import ChartOperator.Yaml.Scalar.Folding
import ChartOperator.Yaml.Token

/-!
# Quoted scalars

Single-quoted scalars, in which a quote is written twice, and double-quoted scalars with escape
sequences.  Both fold the white space between their words; an escaped line break joins two lines
without a space.
-/

namespace ChartOperator.Yaml

/-- What a character stands for after a backslash, if it is a sequence of one character. -/
def simpleEscape? : Char → Option Char
  | '0' => some '\x00'
  | 'a' => some '\x07'
  | 'b' => some '\x08'
  | 't' => some '\t'
  | '\t' => some '\t'
  | 'n' => some '\n'
  | 'v' => some '\x0b'
  | 'f' => some '\x0c'
  | 'r' => some '\r'
  | 'e' => some '\x1b'
  | ' ' => some ' '
  | '"' => some '"'
  | '/' => some '/'
  | '\\' => some '\\'
  | 'N' => some '\u0085'
  | '_' => some '\u00a0'
  | 'L' => some '\u2028'
  | 'P' => some '\u2029'
  | _ => none

/-- The number of hexadecimal digits after a backslash and a letter. -/
def escapeWidth? : Char → Option Nat
  | 'x' => some 2
  | 'u' => some 4
  | 'U' => some 8
  | _ => none

/-- The number that hexadecimal digits denote. -/
def hexValue? (cs : List Char) : Option Nat :=
  cs.foldl (fun value? c => do
    let value ← value?
    let digit ← Text.digitValue? 16 c
    pure (value * 16 + digit)) (some 0)

/-- The character with a code point, if it is one. -/
def charOfCode? (n : Nat) : Option Char :=
  if n.isValidChar then some (Char.ofNat n) else none

/-- Reads what follows a backslash: the character meant and the number of characters read. -/
def readEscape (cs : List Char) : Except Error (Char × Nat) :=
  match cs with
  | [] => .error (.lexical "found unknown escape character")
  | c :: rest =>
      match simpleEscape? c, escapeWidth? c with
      | some meant, _ => .ok (meant, 1)
      | none, some width =>
          let digits := rest.take width
          match (if digits.length = width then hexValue? digits else none) with
          | none => .error (.lexical "did not find expected hexdecimal number")
          | some code =>
              match charOfCode? code with
              | none => .error (.lexical "found invalid Unicode character escape code")
              | some meant => .ok (meant, 1 + width)
      | none, none => .error (.lexical "found unknown escape character")

/-- The characters of a word of a quoted scalar, where it ends, and whether it ends with an
escaped line break. -/
structure QuotedWord where
  text : List Char
  after : Cursor
  escapedBreak : Bool

/-- Reads a word of a quoted scalar, up to white space or the closing quote. -/
def readQuotedWord (single : Bool) (text : List Char) (c : Cursor) :
    Except Error QuotedWord :=
  match _h : c.peek with
  | none => .ok ⟨text, c, false⟩
  | some x =>
      if isSpacing x then .ok ⟨text, c, false⟩
      else if single && x == '\'' then
        if c.peekAt 1 = some '\'' then readQuotedWord single (text ++ ['\'']) (c.skip 2)
        else .ok ⟨text, c, false⟩
      else if !single && x == '"' then .ok ⟨text, c, false⟩
      else if !single && x == '\\' then
        if (c.peekAt 1).any isBreak then .ok ⟨text, (c.skip 1).readBreak.2, true⟩
        else
          match readEscape (c.rest.drop 1) with
          | .error e => .error e
          | .ok (meant, width) => readQuotedWord single (text ++ [meant]) (c.skip (1 + width))
      else readQuotedWord single (text ++ [x]) (c.skip 1)
  termination_by c.rest.length
  decreasing_by
    all_goals exact Cursor.skip_length_lt _h _ (by omega)

/-- Reads the words and gaps of a quoted scalar up to and including the closing quote. -/
def readQuotedRest (single : Bool) (text : List Char) (c : Cursor) :
    Except Error (List Char × Cursor) :=
  if c.atDocumentMarker then .error (.lexical "found unexpected document indicator")
  else
    match readQuotedWord single [] c with
    | .error e => .error e
    | .ok word =>
        if word.after.peek = some (if single then '\'' else '"') then
          .ok (text ++ word.text, word.after.skip 1)
        else
          match readGap 0 { broken := word.escapedBreak } word.after with
          | none => .error (.lexical "found a tab character that violates indentation")
          | some (gap, after) =>
              if after.rest.length < c.rest.length then
                readQuotedRest single (text ++ word.text ++ gap.fold) after
              else .error (.lexical "found unexpected end of stream")
  termination_by c.rest.length

/-- Reads a quoted scalar whose opening quote is next. -/
def readQuoted (single : Bool) (c : Cursor) : Except Error (Token × Cursor) :=
  match readQuotedRest single [] (c.skip 1) with
  | .error e => .error e
  | .ok (text, after) =>
      .ok (.scalar (if single then .singleQuoted else .doubleQuoted) (String.ofList text), after)

end ChartOperator.Yaml
