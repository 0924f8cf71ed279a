/-!
# YAML character classes

The classes of characters that the lexical rules of YAML refer to.  Predicates on an optional
character speak of the next character of a text and hold of its end where the rule says so.
-/

namespace ChartOperator.Yaml

/-- The characters that a YAML text may contain. -/
def isAllowed (c : Char) : Bool :=
  let n := c.toNat
  n == 0x09 || n == 0x0A || n == 0x0D || (0x20 ≤ n && n ≤ 0x7E) || n == 0x85 ||
    (0xA0 ≤ n && n ≤ 0xD7FF) || (0xE000 ≤ n && n ≤ 0xFFFD) || 0x10000 ≤ n

/-- A space or a tab. -/
def isSpaceOrTab (c : Char) : Bool :=
  c == ' ' || c == '\t'

/-- A line break: carriage return, line feed, next line, line and paragraph separator. -/
def isBreak (c : Char) : Bool :=
  c == '\r' || c == '\n' || c == '\u0085' || c == '\u2028' || c == '\u2029'

/-- White space between tokens. -/
def isSpacing (c : Char) : Bool :=
  isSpaceOrTab c || isBreak c

/-- The end of a line: a break or the end of the text. -/
def endsLine : Option Char → Bool
  | none => true
  | some c => isBreak c

/-- The end of a word: white space or the end of the text. -/
def endsWord : Option Char → Bool
  | none => true
  | some c => isSpacing c

/-- The characters of anchor names, tag handles and directive names. -/
def isWordChar (c : Char) : Bool :=
  c.isAlphanum || c == '_' || c == '-'

/-- The characters of tag suffixes besides the word characters. -/
def isTagMark (c : Char) : Bool :=
  c ∈ [';', '/', '?', ':', '@', '&', '=', '+', '$', '.', '!', '~', '*', '\'', '(', ')', '%']

/-- The characters of a tag suffix; a verbatim tag may also hold commas and square brackets. -/
def isTagChar (verbatim : Bool) (c : Char) : Bool :=
  isWordChar c || isTagMark c || (verbatim && (c == ',' || c == '[' || c == ']'))

/-- The indicators that delimit flow collections. -/
def isFlowDelimiter (c : Char) : Bool :=
  c == ',' || c == '[' || c == ']' || c == '{' || c == '}'

/-- The characters that cannot start a plain scalar on their own. -/
def isIndicator (c : Char) : Bool :=
  c ∈ ['-', '?', ':', ',', '[', ']', '{', '}', '#', '&', '*', '!', '|', '>', '\'', '"', '%',
    '@', '\x60']

end ChartOperator.Yaml
