import ChartOperator.Duration.Basic
import ChartOperator.Number.Binary64
import ChartOperator.Text.Blank
import ChartOperator.Text.Digit

/-!
# Reading durations

A duration is written as one or more segments, each a decimal number with a unit: `300ms`,
`90s`, `1m30s`, `1.5h`.  A bare `0` stands for zero.  A text that consists of segments is gone
through from left to right; the values of the segments are added up in binary floating point, in
the order in which they stand, and the sum is rounded to whole nanoseconds.
-/

namespace ChartOperator.Duration

/-- The units of a segment. -/
inductive TimeUnit where
  | nanosecond
  | microsecond
  | millisecond
  | second
  | minute
  | hour
  deriving DecidableEq

/-- The seconds in one unit, as a number of the floating-point format. -/
def TimeUnit.inSeconds : TimeUnit → Magnitude
  | .nanosecond => .ofRatio 1 1000000000
  | .microsecond => .ofRatio 1 1000000
  | .millisecond => .ofRatio 1 1000
  | .second => .ofRatio 1 1
  | .minute => .ofRatio 60 1
  | .hour => .ofRatio 3600 1

/-- The unit with a name. -/
def TimeUnit.ofName? : List Char → Option TimeUnit
  | ['n', 's'] => some .nanosecond
  | ['u', 's'] => some .microsecond
  | ['µ', 's'] => some .microsecond
  | ['m', 's'] => some .millisecond
  | ['s'] => some .second
  | ['m'] => some .minute
  | ['h'] => some .hour
  | _ => none

/-- The names of units, in the order in which they are tried: `ms` comes before `m`, so that it is
one unit and never minutes followed by `s`. -/
def unitNames : List (List Char) :=
  [['n', 's'], ['u', 's'], ['µ', 's'], ['m', 's'], ['s'], ['m'], ['h']]

/-- Reads the name of a unit at the head of a text. -/
def readUnit? (cs : List Char) : Option (List Char × List Char) :=
  (unitNames.find? (·.isPrefixOf cs)).map fun name => (name, cs.drop name.length)

/-- One number with its unit.  All parts are kept as written. -/
structure Segment where
  whole : List Char
  /-- The digits after the point, if there is one. -/
  fraction : Option (List Char)
  unit : List Char
  deriving DecidableEq

/-- Reads the optional point and the digits after it; a point without digits is not read. -/
def readFraction (cs : List Char) : Option (List Char) × List Char :=
  match cs with
  | '.' :: rest =>
      let digits := rest.takeWhile Text.isDecimalDigit
      if digits.isEmpty then (none, cs)
      else (some digits, rest.dropWhile Text.isDecimalDigit)
  | _ => (none, cs)

/-- Reads the segment at the head of a text. -/
def Segment.read? (cs : List Char) : Option (Segment × List Char) :=
  let whole := cs.takeWhile Text.isDecimalDigit
  if whole.isEmpty then none
  else
    let fraction := readFraction (cs.dropWhile Text.isDecimalDigit)
    (readUnit? fraction.2).map fun unit => (⟨whole, fraction.1, unit.1⟩, unit.2)

theorem length_lt_of_readUnit? {cs name rest : List Char}
    (h : readUnit? cs = some (name, rest)) : rest.length < cs.length := by
  obtain ⟨found, hfound, heq⟩ := Option.map_eq_some_iff.mp h
  obtain ⟨rfl, rfl⟩ := Prod.mk.inj heq
  have hmem := List.mem_of_find?_eq_some hfound
  have hprefix : found <+: cs :=
    List.isPrefixOf_iff_prefix.mp (by simpa using List.find?_some hfound)
  have hpos : ∀ name ∈ unitNames, 0 < name.length := by decide
  have := hpos found hmem
  have := hprefix.length_le
  rw [List.length_drop]
  omega

theorem readFraction_length_le (cs : List Char) : (readFraction cs).2.length ≤ cs.length := by
  unfold readFraction
  split
  · rename_i rest
    dsimp only
    split
    · simp
    · have := (List.dropWhile_suffix Text.isDecimalDigit (l := rest)).length_le
      simp only [List.length_cons]
      omega
  · simp

theorem Segment.length_lt_of_read? {cs rest : List Char} {segment : Segment}
    (h : Segment.read? cs = some (segment, rest)) : rest.length < cs.length := by
  unfold Segment.read? at h
  dsimp only at h
  split at h
  · simp at h
  · obtain ⟨⟨unit, rest'⟩, hunit, heq⟩ := Option.map_eq_some_iff.mp h
    simp only [Prod.mk.injEq] at heq
    obtain ⟨-, rfl⟩ := heq
    have hread := length_lt_of_readUnit? hunit
    have hfraction := readFraction_length_le (cs.dropWhile Text.isDecimalDigit)
    have hdrop := (List.dropWhile_suffix Text.isDecimalDigit (l := cs)).length_le
    omega

/-- Whether a text consists of one or more segments and of nothing else. -/
def isSequence (cs : List Char) : Bool :=
  match _h : Segment.read? cs with
  | none => false
  | some (_, rest) => rest.isEmpty || isSequence rest
  termination_by cs.length
  decreasing_by
    exact Segment.length_lt_of_read? _h

/-- The segments that are found in a text from left to right.  Where no segment starts, a character
is passed over. -/
def segments : List Char → List Segment
  | [] => []
  | c :: cs =>
      match _h : Segment.read? (c :: cs) with
      | some (segment, rest) => segment :: segments rest
      | none => segments cs
  termination_by cs => cs.length
  decreasing_by
    · exact Segment.length_lt_of_read? _h
    · exact Nat.lt_succ_self cs.length

/-- The number of a segment.  Only ASCII digits have a numeric value here, although a segment
may be written with any decimal digits. -/
def Segment.number? (segment : Segment) : Option Magnitude :=
  let fraction := segment.fraction.getD []
  let digits := segment.whole ++ fraction
  if digits.all (·.isDigit) then
    some (.ofRatio (Text.digitsValue 0 digits) (Nat.pow 10 fraction.length))
  else none

/-- Why a text is no duration. -/
inductive ParseFault where
  | empty
  | negative
  /-- The text is not a sequence of segments. -/
  | malformed
  /-- A segment is written with digits outside ASCII. -/
  | badNumber
  /-- A segment has a unit without a value in seconds. -/
  | unknownUnit (name : String)
  | outOfRange
  deriving DecidableEq

/-- The wording of a fault. -/
def ParseFault.reason : ParseFault → String
  | .empty => "duration cannot be empty"
  | .negative => "duration cannot be negative"
  | .malformed => "expected <number><unit> segments, e.g. '90s', '1m30s', '500ms'"
  | .badNumber => "invalid float literal"
  | .unknownUnit name => s!"unknown unit '{name}'"
  | .outOfRange =>
      "cannot convert float seconds to Duration: value is either too big or NaN"

/-- The seconds of a segment: its number is read before its unit. -/
def Segment.seconds (segment : Segment) : Except ParseFault Magnitude :=
  match segment.number? with
  | none => .error .badNumber
  | some number =>
      match TimeUnit.ofName? segment.unit with
      | none => .error (.unknownUnit (String.ofList segment.unit))
      | some unit => .ok (number.mul unit.inSeconds)

/-- Adds the seconds of segments onto a sum, from left to right. -/
def sumSeconds (sum : Magnitude) : List Segment → Except ParseFault Magnitude
  | [] => .ok sum
  | segment :: rest =>
      match segment.seconds with
      | .error fault => .error fault
      | .ok seconds => sumSeconds (sum.add seconds) rest

/-- A number of seconds rounded to nanoseconds, a tie going to the even neighbour; `none` from
the limit on. -/
def ofMagnitude? : Magnitude → Option Duration
  | .infinite => none
  | .finite quanta =>
      let nanos := roundHalfEven (quanta * nanosPerSecond) Magnitude.one
      if nanos < secondsLimit * nanosPerSecond then some ⟨nanos⟩ else none

/-- The duration of segments together. -/
def ofSegments (parts : List Segment) : Except ParseFault Duration :=
  match sumSeconds (.finite 0) parts with
  | .error fault => .error fault
  | .ok sum =>
      match ofMagnitude? sum with
      | none => .error .outOfRange
      | some duration => .ok duration

/-- A text that is no duration, with the reason. -/
structure ParseError where
  input : String
  fault : ParseFault
  deriving DecidableEq

/-- The wording of a parse error. -/
def ParseError.message (e : ParseError) : String :=
  s!"invalid duration '{e.input}': {e.fault.reason}"

/-- Reads a duration from a text without surrounding blanks. -/
def parseTrimmed (cs : List Char) : Except ParseFault Duration :=
  if cs.isEmpty then .error .empty
  else if cs = ['0'] then .ok zero
  else if cs.head? = some '-' then .error .negative
  else if !isSequence cs then .error .malformed
  else ofSegments (segments cs)

/-- Reads a duration such as `1m30s`; blanks around it are ignored. -/
def parse (input : String) : Except ParseError Duration :=
  match parseTrimmed (Text.trimChars input.toList) with
  | .ok duration => .ok duration
  | .error fault => .error ⟨input, fault⟩

end ChartOperator.Duration
