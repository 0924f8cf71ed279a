/-!
# Character classes

What stands between the brackets of a pattern such as `[a-z]`: single characters and ranges,
combined by set operators.  A class with an exclamation mark or a caret in front holds all the
other characters.
-/

namespace ChartOperator.Glob

/-- The characters from one to another; a single character is a range of its own. -/
structure CharRange where
  first : Char
  last : Char
  deriving DecidableEq

/-- The range of a single character. -/
def CharRange.single (c : Char) : CharRange := ⟨c, c⟩

/-- Membership in a range. -/
def CharRange.contains (range : CharRange) (c : Char) : Bool :=
  range.first ≤ c && c ≤ range.last

/-- The operators between the parts of a class, written as a doubled ampersand, dash or tilde. -/
inductive SetOperator where
  | intersection
  | difference
  | symmetricDifference
  deriving DecidableEq

/-- Membership in a combined set, given membership in its parts. -/
def SetOperator.combine : SetOperator → Bool → Bool → Bool
  | .intersection, left, right => left && right
  | .difference, left, right => left && !right
  | .symmetricDifference, left, right => left != right

/-- A set of characters. -/
inductive CharSet where
  | union (ranges : List CharRange)
  | combined (operator : SetOperator) (left right : CharSet)
  deriving DecidableEq

/-- Membership in a set. -/
def CharSet.contains : CharSet → Char → Bool
  | .union ranges, c => ranges.any (·.contains c)
  | .combined operator left right, c => operator.combine (left.contains c) (right.contains c)

/-- A set of characters or its complement. -/
structure CharClass where
  negated : Bool
  set : CharSet
  deriving DecidableEq

/-- Membership in a class. -/
def CharClass.contains (c : CharClass) (character : Char) : Bool :=
  c.set.contains character != c.negated

/-- A left operand that waits for its right one. -/
structure Pending where
  left : CharSet
  operator : SetOperator

/-- Combines a set with the left operand that waits for it. -/
def Pending.close (pending : Option Pending) (right : CharSet) : CharSet :=
  match pending with
  | none => right
  | some p => .combined p.operator p.left right

/-- Reads the rest of a class, given the left operand that waits and the ranges of the current one.
Operators associate to the left, and an operand may be empty.  A bracket may only stand at the
end of a range, and the end of a range may not come before its start. -/
def readSet (pending : Option Pending) (ranges : List CharRange) : List Char → Option CharSet
  | [] => some (Pending.close pending (.union ranges))
  | '&' :: '&' :: rest =>
      readSet (some ⟨Pending.close pending (.union ranges), .intersection⟩) [] rest
  | '-' :: '-' :: rest =>
      readSet (some ⟨Pending.close pending (.union ranges), .difference⟩) [] rest
  | '~' :: '~' :: rest =>
      readSet (some ⟨Pending.close pending (.union ranges), .symmetricDifference⟩) [] rest
  | '[' :: _ => none
  | c :: '-' :: '-' :: rest => readSet pending (ranges ++ [.single c]) ('-' :: '-' :: rest)
  | c :: '-' :: last :: rest =>
      if c ≤ last then readSet pending (ranges ++ [⟨c, last⟩]) rest else none
  | c :: rest => readSet pending (ranges ++ [.single c]) rest
  termination_by cs => cs.length

/-- Splits off the mark of a complement. -/
def splitNegation : List Char → Bool × List Char
  | '!' :: rest => (true, rest)
  | '^' :: rest => (true, rest)
  | cs => (false, cs)

/-- Reads the text between the brackets of a class.  Dashes in front stand for themselves. -/
def CharClass.read? (content : List Char) : Option CharClass :=
  let (negated, body) := splitNegation content
  if body.isEmpty then none
  else
    let dashes := (body.takeWhile (· = '-')).map CharRange.single
    (readSet none dashes (body.dropWhile (· = '-'))).map fun set => ⟨negated, set⟩

end ChartOperator.Glob
