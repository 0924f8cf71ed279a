import ChartOperator.Text.Alphanumeric
import ChartOperator.Text.Decimal

/-!
# Patterns for the values of fields

A log filter may ask for the value of a field: for a number, or for a match with a regular
expression.  Here it is decided which texts are such patterns.  They are read where a closing
brace, a comma and an equals sign have ended them, so none of these occurs in a pattern, and
nothing in a regular expression that needs a closing brace can be written.
-/

namespace ChartOperator

namespace FieldPattern

/-- What a backslash and the characters after it stand for. -/
inductive Escape where
  | character (c : Char)
  | characters
  /-- The start or the end of the text. -/
  | place
  deriving DecidableEq

/-- The character with a given number of hexadecimal digits. -/
def readHex? (count : Nat) (cs : List Char) : Option Char :=
  let digits := cs.take count
  if digits.length < count ∨ digits.head? = some '+' then none
  else
    match Text.readUnsigned 16 0x10FFFF digits with
    | .ok code => if code.isValidChar then some (Char.ofNat code) else none
    | .error _ => none

/-- The letters that stand for a control character after a backslash. -/
def controlLetters : List (Char × Char) :=
  [('a', '\x07'), ('f', '\x0c'), ('n', '\n'), ('r', '\x0d'), ('t', '\t'), ('v', '\x0b')]

/-- Whether a character stands for itself after a backslash. -/
def isEscapable (c : Char) : Bool :=
  c.toNat < 0x80 && !c.isAlphanum && c != '<' && c != '>'

/-- Reads what follows a backslash: its meaning and the number of characters.  Boundaries of words
and references to groups are not supported. -/
def readEscape? : List Char → Option (Escape × Nat)
  | [] => none
  | c :: rest =>
      if c = 'x' then (readHex? 2 rest).map fun d => (.character d, 3)
      else if c = 'u' then (readHex? 4 rest).map fun d => (.character d, 5)
      else if c = 'U' then (readHex? 8 rest).map fun d => (.character d, 9)
      else if c = 'p' ∨ c = 'P' then
        if rest.head?.any fun d => "CLMNPSZ".toList.contains d.toUpper then some (.characters, 2)
        else none
      else if "dDsSwW".toList.contains c then some (.characters, 1)
      else if c = 'A' ∨ c = 'z' then some (.place, 1)
      else
        match controlLetters.lookup c with
        | some d => some (.character d, 1)
        | none => if isEscapable c then some (.character c, 1) else none

/-- Reads an item of a class that starts with a character: the character that it stands for, if it
is a single one, and how many more characters belong to it. -/
def readItem? (c : Char) (rest : List Char) : Option (Option Char × Nat) :=
  if c = '\\' then
    match readEscape? rest with
    | some (.character d, taken) => some (some d, taken)
    | some (.characters, taken) => some (none, taken)
    | _ => none
  else some (some c, 0)

/-- How many characters at the start of a class have a meaning only there: a caret, dashes that
stand for themselves, and a closing bracket that stands for itself. -/
def classStart (cs : List Char) : Nat :=
  let caret := if cs.head? = some '^' then 1 else 0
  let dashes := ((cs.drop caret).takeWhile (· = '-')).length
  let bracket := if dashes = 0 ∧ (cs.drop caret).head? = some ']' then 1 else 0
  caret + dashes + bracket

/-- Whether a text can be the name of a group. -/
def isGroupName : List Char → Bool
  | [] => false
  | c :: rest =>
      (c == '_' || (Text.isAlphanumeric c && !c.isDigit)) &&
        rest.all fun d => Text.isAlphanumeric d || "_.[]".toList.contains d

/-- Whether a text is a list of flags. -/
def isFlags (cs : List Char) : Bool :=
  cs.all (fun c => "imsUuRx-".toList.contains c) && cs.eraseDups.length == cs.length &&
    cs.getLast? != some '-'

/-- Reads what follows an opening parenthesis and a question mark: whether it opens a group, and
the number of characters. -/
def readGroupMark? (cs : List Char) : Option (Bool × Nat) :=
  let named (lead : Nat) :=
    let name := (cs.drop lead).takeWhile (· ≠ '>')
    if isGroupName name ∧ (cs.drop (lead + name.length)).head? = some '>' then
      some (true, lead + name.length + 1)
    else none
  match cs with
  | '<' :: _ => named 1
  | 'P' :: '<' :: _ => named 2
  | _ =>
      let flags := cs.takeWhile fun c => c ≠ ':' ∧ c ≠ ')'
      if !isFlags flags then none
      else
        match (cs.drop flags.length).head? with
        | some ':' => some (true, flags.length + 1)
        | some _ => if flags.isEmpty then none else some (false, flags.length + 1)
        | none => none

/-- How far a regular expression has been read. -/
structure Progress where
  /-- The number of open groups. -/
  groups : Nat := 0
  /-- The number of open classes. -/
  classes : Nat := 0
  /-- There is something in front that can be repeated. -/
  operand : Bool := false

/-- Reads on from a character inside a class: the progress, and how many more characters belong to
what has been read.  The end of a range may not come before its start. -/
def stepInside? (progress : Progress) (c : Char) (rest : List Char) : Option (Progress × Nat) :=
  if c = ']' then some ({ progress with classes := progress.classes - 1, operand := true }, 0)
  else if c = '[' then
    some ({ progress with classes := progress.classes + 1 }, classStart rest)
  else if (c = '&' ∨ c = '-' ∨ c = '~') ∧ rest.head? = some c then some (progress, 1)
  else do
    let (first, taken) ← readItem? c rest
    match rest.drop taken with
    | '-' :: next :: more =>
        if next = ']' ∨ next = '-' then some (progress, taken)
        else do
          let (last, takenByLast) ← readItem? next more
          match first, last with
          | some a, some b =>
              if a ≤ b then some (progress, taken + 2 + takenByLast) else none
          | _, _ => none
    | _ => some (progress, taken)

/-- Reads on from a character outside of classes. -/
def stepOutside? (progress : Progress) (c : Char) (rest : List Char) : Option (Progress × Nat) :=
  if c = '(' then
    match rest with
    | '?' :: mark =>
        (readGroupMark? mark).map fun (opens, taken) =>
          let groups := if opens then progress.groups + 1 else progress.groups
          ({ progress with groups := groups, operand := false }, taken + 1)
    | _ => some ({ progress with groups := progress.groups + 1, operand := false }, 0)
  else if c = ')' then
    if progress.groups = 0 then none
    else some ({ progress with groups := progress.groups - 1, operand := true }, 0)
  else if c = '|' then some ({ progress with operand := false }, 0)
  else if c = '*' ∨ c = '+' ∨ c = '?' then
    if progress.operand then some (progress, 0) else none
  else if c = '{' then none
  else if c = '[' then some ({ progress with classes := 1 }, classStart rest)
  else if c = '\\' then
    (readEscape? rest).map fun (_, taken) => ({ progress with operand := true }, taken)
  else some ({ progress with operand := true }, 0)

/-- Whether a text completes a regular expression. -/
def completes (progress : Progress) : List Char → Bool
  | [] => progress.groups == 0 && progress.classes == 0
  | c :: rest =>
      let next :=
        if progress.classes = 0 then stepOutside? progress c rest
        else stepInside? progress c rest
      match next with
      | none => false
      | some (progress, taken) => completes progress (rest.drop taken)
  termination_by cs => cs.length
  decreasing_by
    simp only [List.length_drop, List.length_cons]
    omega

/-- Whether a text is a number without a sign: digits with an optional point and exponent, or a
word for infinity or for no number. -/
def isNumber (cs : List Char) : Bool :=
  let whole := cs.takeWhile Char.isDigit
  let rest := cs.drop whole.length
  let fraction := if rest.head? = some '.' then rest.tail.takeWhile Char.isDigit else []
  let point := if rest.head? = some '.' then 1 else 0
  let exponent := (rest.drop (point + fraction.length)).map Char.toLower
  let digits := if exponent.tail.head?.any fun c => c = '+' ∨ c = '-' then exponent.drop 2
    else exponent.drop 1
  ["inf", "infinity", "nan"].contains (String.ofList (cs.map Char.toLower)) ||
    (!(whole ++ fraction).isEmpty &&
      (exponent.isEmpty ||
        (exponent.head? == some 'e' && !digits.isEmpty && digits.all Char.isDigit)))

/-- Whether a text is a pattern for a value.  A number may have a sign, which no regular expression
may start with. -/
def isValid (cs : List Char) : Bool :=
  (cs.head? == some '+' && isNumber cs.tail) || completes {} cs

end FieldPattern

end ChartOperator
