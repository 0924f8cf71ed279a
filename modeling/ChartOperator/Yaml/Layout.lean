import ChartOperator.Yaml.Scalar.Block
import ChartOperator.Yaml.Scalar.Plain
import ChartOperator.Yaml.Scalar.Quoted
import ChartOperator.Yaml.Tag

/-!
# The layout of a YAML text

Cuts a text into tokens and resolves its layout.  Two things are remembered while tokens are
read.  The columns of the open block collections: a token further to the left closes them.  And
for each open flow collection the place of a token that may turn out to be the key of a mapping
entry: the colon after it inserts a key token, and outside flow collections the start of a block
mapping, in front of it.
-/

namespace ChartOperator.Yaml

/-- A token that may turn out to be a key. -/
structure KeyCandidate where
  /-- The number of tokens before it. -/
  position : Nat
  index : Nat
  line : Nat
  column : Nat
  /-- Whether the token has to be a key, since it starts a line of a block mapping. -/
  required : Bool

/-- What is remembered while the tokens of a text are read. -/
structure Layout where
  cursor : Cursor
  tokens : Array Token
  /-- The columns of the open block collections, the innermost first. -/
  columns : List Nat
  /-- The key candidate of each open flow collection, the innermost first. -/
  flows : List (Option KeyCandidate)
  /-- The key candidate outside all flow collections. -/
  candidate : Option KeyCandidate
  /-- Whether a key may start here. -/
  keyAllowed : Bool

namespace Layout

/-- The layout at the start of a text. -/
def start (text : List Char) : Layout :=
  ⟨.start text, #[], [], [], none, true⟩

/-- Whether a flow collection is open. -/
def inFlow (s : Layout) : Bool := !s.flows.isEmpty

/-- The least column of a line that continues the innermost block collection. -/
def indent (s : Layout) : Nat :=
  match s.columns with
  | [] => 0
  | column :: _ => column + 1

/-- Adds a token at the end. -/
def emit (s : Layout) (token : Token) : Layout :=
  { s with tokens := s.tokens.push token }

/-- The key candidate of the innermost flow collection, or outside all of them. -/
def current (s : Layout) : Option KeyCandidate :=
  match s.flows with
  | [] => s.candidate
  | candidate :: _ => candidate

/-- Replaces the current key candidate. -/
def setCurrent (s : Layout) (candidate : Option KeyCandidate) : Layout :=
  match s.flows with
  | [] => { s with candidate := candidate }
  | _ :: rest => { s with flows := candidate :: rest }

/-- The error of a required key without its colon. -/
def missingColon : Error := .lexical "could not find expected ':'"

/-- Gives up the current key candidate. -/
def dropKey (s : Layout) : Except Error Layout :=
  if s.current.any (·.required) then .error missingColon else .ok (s.setCurrent none)

/-- Makes the next token a key candidate, where a key may start. -/
def saveKey (s : Layout) : Except Error Layout :=
  if s.keyAllowed then do
    let dropped ← s.dropKey
    let c := s.cursor
    let required := !s.inFlow && s.columns.head? == some c.column
    .ok (dropped.setCurrent (some ⟨s.tokens.size, c.index, c.line, c.column, required⟩))
  else .ok s

/-- The greatest distance between a key and its colon. -/
def keyLimit : Nat := 1024

/-- Whether a candidate can still be a key at the cursor: it has to be on the same line and
near. -/
def isFresh (s : Layout) (candidate : KeyCandidate) : Bool :=
  s.cursor.line ≤ candidate.line && s.cursor.index ≤ candidate.index + keyLimit

/-- Gives up a candidate that can no longer be a key. -/
def refresh (s : Layout) (candidate : Option KeyCandidate) :
    Except Error (Option KeyCandidate) :=
  match candidate with
  | none => .ok none
  | some k =>
      if s.isFresh k then .ok (some k)
      else if k.required then .error missingColon
      else .ok none

/-- Gives up all candidates that can no longer be keys. -/
def dropStaleKeys (s : Layout) : Except Error Layout := do
  let candidate ← s.refresh s.candidate
  let flows ← s.flows.mapM s.refresh
  .ok { s with candidate := candidate, flows := flows }

/-- Opens a block collection at a column to the right of the innermost one.  Its first token
goes to the given position. -/
def openBlock (s : Layout) (column position : Nat) (token : Token) : Layout :=
  if s.inFlow || column < s.indent then s
  else
    { s with
      columns := column :: s.columns
      tokens := s.tokens.insertIdxIfInBounds position token }

/-- Closes the block collections to the right of a column; without a column, all of them. -/
def closeBlocks (s : Layout) (column : Option Nat) : Layout :=
  if s.inFlow then s
  else
    let closed := s.columns.takeWhile fun open_ => column.all (· < open_)
    { s with
      columns := s.columns.drop closed.length
      tokens := s.tokens ++ Array.replicate closed.length Token.blockEnd }

/-- Moves past the white space of a line and the comment after it.  A byte order mark may start
the line; tabs may not stand where a key may start. -/
def skipBlanks (inFlow keyAllowed : Bool) (c : Cursor) : Cursor :=
  let afterMark := if c.column == 0 && c.peek == some '\uFEFF' then c.skip 1 else c
  let tabs := inFlow || !keyAllowed
  (afterMark.skipWhile fun x => x == ' ' || (tabs && x == '\t')).skipComment

/-- Moves to the next token, past white space and comments; says whether a key may start there. -/
def skipSpacing (inFlow keyAllowed : Bool) (c : Cursor) : Cursor × Bool :=
  let lineEnd := skipBlanks inFlow keyAllowed c
  if lineEnd.peek.any isBreak then
    if lineEnd.readBreak.2.rest.length < c.rest.length then
      skipSpacing inFlow (keyAllowed || !inFlow) lineEnd.readBreak.2
    else (lineEnd, keyAllowed)
  else (lineEnd, keyAllowed)
  termination_by c.rest.length

/-- Reads a token of one or more characters that is neither a property nor a scalar. -/
def take (s : Layout) (width : Nat) (token : Token) (keyAllowed : Bool) : Layout :=
  { s.emit token with cursor := s.cursor.skip width, keyAllowed := keyAllowed }

/-- Ends the text: all blocks are closed. -/
def finish (s : Layout) : Except Error Layout := do
  let closed ← (s.closeBlocks none).dropKey
  .ok (closed.emit .streamEnd)

/-- Reads a directive. -/
def directive (s : Layout) : Except Error Layout := do
  let closed ← (s.closeBlocks none).dropKey
  let (token, after) ← readDirective s.cursor
  .ok { closed.emit token with cursor := after, keyAllowed := false }

/-- Reads a document marker. -/
def documentMarker (s : Layout) : Except Error Layout := do
  let closed ← (s.closeBlocks none).dropKey
  let token := if s.cursor.peek = some '-' then Token.documentStart else .documentEnd
  .ok (closed.take 3 token false)

/-- Opens a flow collection; the collection as a whole may be a key. -/
def flowStart (s : Layout) (token : Token) : Except Error Layout := do
  let saved ← s.saveKey
  let opened := saved.take 1 token true
  .ok { opened with flows := none :: opened.flows }

/-- Closes a flow collection. -/
def flowEnd (s : Layout) (token : Token) : Except Error Layout := do
  let dropped ← s.dropKey
  let closed := dropped.take 1 token false
  .ok { closed with flows := closed.flows.drop 1 }

/-- Reads the comma between the entries of a flow collection. -/
def flowEntry (s : Layout) : Except Error Layout := do
  .ok ((← s.dropKey).take 1 .flowEntry true)

/-- Reads the dash of an entry of a block sequence. -/
def blockEntry (s : Layout) : Except Error Layout := do
  if !s.inFlow && !s.keyAllowed then
    .error (.lexical "block sequence entries are not allowed in this context")
  else
    let opened := s.openBlock s.cursor.column s.tokens.size .blockSequenceStart
    .ok ((← opened.dropKey).take 1 .blockEntry true)

/-- Reads the question mark of an explicit key. -/
def explicitKey (s : Layout) : Except Error Layout := do
  if !s.inFlow && !s.keyAllowed then
    .error (.lexical "mapping keys are not allowed in this context")
  else
    let opened := s.openBlock s.cursor.column s.tokens.size .blockMappingStart
    .ok ((← opened.dropKey).take 1 .key (!s.inFlow))

/-- Reads the colon between a key and its value. -/
def value (s : Layout) : Except Error Layout :=
  match s.current with
  | some k =>
      let announced := { s with tokens := s.tokens.insertIdxIfInBounds k.position .key }
      let opened := announced.openBlock k.column k.position .blockMappingStart
      .ok ((opened.setCurrent none).take 1 .value false)
  | none =>
      if !s.inFlow && !s.keyAllowed then
        .error (.lexical "mapping values are not allowed in this context")
      else
        let opened := s.openBlock s.cursor.column s.tokens.size .blockMappingStart
        .ok (opened.take 1 .value (!s.inFlow))

/-- Reads a node property or a scalar that may be a key. -/
def content (s : Layout) (read : Cursor → Except Error (Token × Cursor)) :
    Except Error Layout := do
  let saved ← s.saveKey
  let (token, after) ← read s.cursor
  .ok { saved.emit token with cursor := after, keyAllowed := false }

/-- Reads a block scalar. -/
def blockScalar (s : Layout) (folded : Bool) : Except Error Layout := do
  let dropped ← s.dropKey
  let (token, after) ← readBlock folded s.indent s.cursor
  .ok { dropped.emit token with cursor := after, keyAllowed := true }

/-- Reads a plain scalar; after a line break in its white space a key may start. -/
def plainScalar (s : Layout) : Except Error Layout := do
  let saved ← s.saveKey
  let plain ← readPlain s.inFlow s.indent s.cursor
  let token := Token.scalar .plain (String.ofList plain.text)
  .ok { saved.emit token with cursor := plain.after, keyAllowed := plain.broken }

/-- Reads the token that starts with a given character. -/
def readToken (s : Layout) (x : Char) : Except Error Layout :=
  let next := s.cursor.peekAt 1
  if s.cursor.column = 0 && x == '%' then s.directive
  else if s.cursor.atDocumentMarker then s.documentMarker
  else if x == '[' then s.flowStart .flowSequenceStart
  else if x == '{' then s.flowStart .flowMappingStart
  else if x == ']' then s.flowEnd .flowSequenceEnd
  else if x == '}' then s.flowEnd .flowMappingEnd
  else if x == ',' then s.flowEntry
  else if x == '-' && endsWord next then s.blockEntry
  else if x == '?' && (s.inFlow || endsWord next) then s.explicitKey
  else if x == ':' && (s.inFlow || endsWord next) then s.value
  else if x == '*' then s.content fun c => do
    let (name, after) ← readAnchorName c
    .ok (.alias name, after)
  else if x == '&' then s.content fun c => do
    let (name, after) ← readAnchorName c
    .ok (.anchor name, after)
  else if x == '!' then s.content (readTag s.inFlow)
  else if x == '|' && !s.inFlow then s.blockScalar false
  else if x == '>' && !s.inFlow then s.blockScalar true
  else if x == '\'' then s.content (readQuoted true)
  else if x == '"' then s.content (readQuoted false)
  else if startsPlain s.inFlow s.cursor then s.plainScalar
  else .error (.lexical "found character that cannot start any token")

/-- Reads all tokens to the end of the text. -/
def readTokens (s : Layout) : Except Error (List Token) := do
  let (cursor, keyAllowed) := skipSpacing s.inFlow s.keyAllowed s.cursor
  let moved := { s with cursor := cursor, keyAllowed := keyAllowed }
  let fresh ← moved.dropStaleKeys
  match cursor.peek with
  | none => .ok (← fresh.finish).tokens.toList
  | some x =>
      let next ← (fresh.closeBlocks (some cursor.column)).readToken x
      if next.cursor.rest.length < s.cursor.rest.length then readTokens next
      else .error (.lexical "found character that cannot start any token")
  termination_by s.cursor.rest.length

end Layout

/-- The tokens of a text. -/
def tokens (text : List Char) : Except Error (List Token) :=
  if text.all isAllowed then (Layout.start text).readTokens
  else .error .forbiddenCharacter

end ChartOperator.Yaml
