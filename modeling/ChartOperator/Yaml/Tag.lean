import ChartOperator.Number.Binary64
import ChartOperator.Text.Utf8
import ChartOperator.Yaml.Error
import ChartOperator.Yaml.Scalar.Quoted

/-!
# Tags, anchors and directives

The lexical forms of node properties (`!tag`, `&anchor`, `*alias`) and of the directives in front
of a document.
-/

namespace ChartOperator.Yaml

/-- Reads the name of an anchor or alias, whose indicator is next. -/
def readAnchorName (c : Cursor) : Except Error (String × Cursor) :=
  let (name, after) := (c.skip 1).readWhile isWordChar
  let ends := endsWord after.peek ||
    after.peek.any (· ∈ ['?', ':', ',', ']', '}', '%', '@', '\x60'])
  if name.isEmpty || !ends then
    .error (.lexical "did not find expected alphabetic or numeric character")
  else .ok (String.ofList name, after)

/-- Reads a tag handle: `!`, `!!` or `!name!`.  Without its closing mark it is the start of a
tag, which a directive does not allow. -/
def readHandle (inDirective : Bool) (c : Cursor) : Except Error (List Char × Cursor) :=
  if c.peek ≠ some '!' then .error (.lexical "did not find expected '!'")
  else
    let (name, after) := (c.skip 1).readWhile isWordChar
    if after.peek = some '!' then .ok ('!' :: name ++ ['!'], after.skip 1)
    else if inDirective && !name.isEmpty then .error (.lexical "did not find expected '!'")
    else .ok ('!' :: name, after)

/-- The number of bytes that a UTF-8 sequence has by its first byte. -/
def sequenceWidth (lead : UInt8) : Nat :=
  if lead < 0x80 then 1
  else if lead &&& 0xE0 == 0xC0 then 2
  else if lead &&& 0xF0 == 0xE0 then 3
  else if lead &&& 0xF8 == 0xF0 then 4
  else 0

/-- Reads one byte written as a percent sign and two hexadecimal digits. -/
def readEscapedByte? : List Char → Option UInt8
  | '%' :: a :: b :: _ => (hexValue? [a, b]).map (·.toUInt8)
  | _ => none

/-- Reads a character written as escaped bytes; gives it with the number of bytes. -/
def readEscapedChar (cs : List Char) : Except Error (Char × Nat) :=
  match readEscapedByte? cs with
  | none => .error (.lexical "did not find URI escaped octet")
  | some lead =>
      let width := sequenceWidth lead
      let bytes? := (List.range width).mapM fun i => readEscapedByte? (cs.drop (3 * i))
      match bytes?.bind Utf8.decode? with
      | some [meant] => .ok (meant, width)
      | _ => .error (.lexical "found an incorrect UTF-8 octet")

/-- Reads the characters of a tag suffix onto a text. -/
def readSuffix (verbatim : Bool) (text : List Char) (c : Cursor) :
    Except Error (List Char × Cursor) :=
  match _h : c.peek with
  | none => .ok (text, c)
  | some x =>
      if !isTagChar verbatim x then .ok (text, c)
      else if x == '%' then
        match readEscapedChar c.rest with
        | .error e => .error e
        | .ok (meant, width) =>
            readSuffix verbatim (text ++ [meant]) (c.skip (3 * max width 1))
      else readSuffix verbatim (text ++ [x]) (c.skip 1)
  termination_by c.rest.length
  decreasing_by
    · exact Cursor.skip_length_lt _h _ (by omega)
    · exact Cursor.skip_length_lt _h 1 Nat.one_pos

/-- Reads a tag suffix that may not be empty. -/
def readSuffix1 (verbatim : Bool) (c : Cursor) : Except Error (List Char × Cursor) := do
  let (text, after) ← readSuffix verbatim [] c
  if after.rest.length = c.rest.length then .error (.lexical "did not find expected tag URI")
  else .ok (text, after)

/-- Reads a tag in one of its forms: verbatim `!<…>`, with a handle `!name!suffix`, or local
`!suffix`.  The lone mark `!` is a tag of its own. -/
def readTagName (c : Cursor) : Except Error (TagName × Cursor) := do
  if c.peekAt 1 = some '<' then
    let (suffix, after) ← readSuffix1 true (c.skip 2)
    if after.peek = some '>' then .ok (⟨"", String.ofList suffix⟩, after.skip 1)
    else .error (.lexical "did not find the expected '>'")
  else
    let (handle, afterHandle) ← readHandle false c
    if 1 < handle.length && handle.getLast? = some '!' then
      let (suffix, after) ← readSuffix1 false afterHandle
      .ok (⟨String.ofList handle, String.ofList suffix⟩, after)
    else
      let (suffix, after) ← readSuffix false (handle.drop 1) afterHandle
      if suffix.isEmpty then .ok (⟨"", "!"⟩, after)
      else .ok (⟨"!", String.ofList suffix⟩, after)

/-- Reads a tag, after which a word must end; in a flow collection a comma may follow too. -/
def readTag (inFlow : Bool) (c : Cursor) : Except Error (Token × Cursor) := do
  let (name, after) ← readTagName c
  if endsWord after.peek || (inFlow && after.peek = some ',') then .ok (.tag name, after)
  else .error (.lexical "did not find expected whitespace or line break")

/-- Reads one of the two numbers of a version, at most nine digits long. -/
def readVersionNumber (c : Cursor) : Except Error (Nat × Cursor) :=
  let (digits, after) := c.readWhile (·.isDigit)
  if digits.isEmpty then .error (.lexical "did not find expected version number")
  else if 9 < digits.length then .error (.lexical "found extremely long version number")
  else .ok (Text.digitsValue 0 digits, after)

/-- Reads the rest of a version directive. -/
def readVersion (c : Cursor) : Except Error (Token × Cursor) := do
  let (major, afterMajor) ← readVersionNumber (c.skipWhile isSpaceOrTab)
  if afterMajor.peek = some '.' then
    let (minor, after) ← readVersionNumber (afterMajor.skip 1)
    .ok (.versionDirective major minor, after)
  else .error (.lexical "did not find expected digit or '.' character")

/-- Reads the rest of a tag directive. -/
def readTagDirective (c : Cursor) : Except Error (Token × Cursor) := do
  let (handle, afterHandle) ← readHandle true (c.skipWhile isSpaceOrTab)
  if afterHandle.peek.any isSpaceOrTab then
    let (start, after) ← readSuffix1 true (afterHandle.skipWhile isSpaceOrTab)
    if endsWord after.peek then
      .ok (.tagDirective (String.ofList handle) (String.ofList start), after)
    else .error (.lexical "did not find expected whitespace or line break")
  else .error (.lexical "did not find expected whitespace")

/-- Reads a directive, whose percent sign is next, with its line. -/
def readDirective (c : Cursor) : Except Error (Token × Cursor) := do
  let (name, afterName) := (c.skip 1).readWhile isWordChar
  if name.isEmpty then .error (.lexical "could not find expected directive name")
  else if !endsWord afterName.peek then
    .error (.lexical "found unexpected non-alphabetical character")
  else
    let (token, afterValue) ←
      if name = "YAML".toList then readVersion afterName
      else if name = "TAG".toList then readTagDirective afterName
      else .error (.lexical "found unknown directive name")
    let lineEnd := (afterValue.skipWhile isSpaceOrTab).skipComment
    if endsLine lineEnd.peek then .ok (token, lineEnd.readBreak.2)
    else .error (.lexical "did not find expected comment or line break")

end ChartOperator.Yaml
