import ChartOperator.Number.Binary64
import ChartOperator.Yaml.Error
import ChartOperator.Yaml.Token

/-!
# The core schema

What a scalar means: null, a truth value, a whole number, a floating-point number or a text.  A
plain scalar is read by its form; a tag of the core schema asks for one type.
-/

namespace ChartOperator.Yaml

/-- The meaning of a scalar. -/
inductive ScalarValue where
  | null
  | bool (b : Bool)
  | int (i : Int)
  | float (x : Binary64)
  | string (s : String)

/-- The words for null. -/
def isNullWord (s : String) : Bool :=
  s == "null" || s == "Null" || s == "NULL" || s == "~"

/-- The words for truth values. -/
def boolWord? (s : String) : Option Bool :=
  if s == "true" || s == "True" || s == "TRUE" then some true
  else if s == "false" || s == "False" || s == "FALSE" then some false
  else none

/-- Splits off a sign; the flag says whether it is a minus sign. -/
def splitSign : List Char → Bool × List Char
  | '-' :: rest => (true, rest)
  | '+' :: rest => (false, rest)
  | cs => (false, cs)

/-- Digits with a superfluous zero in front, which are a text and not a number. -/
def hasLeadingZero (cs : List Char) : Bool :=
  match (splitSign cs).2 with
  | '0' :: d :: rest => (d :: rest).all (·.isDigit)
  | _ => false

/-- The value of the digits of a base, if there is at least one and nothing else. -/
def baseValue? (base : Nat) (cs : List Char) : Option Nat :=
  if cs.isEmpty then none
  else cs.foldl (fun value? c => do
    let value ← value?
    let digit ← Text.digitValue? base c
    pure (value * base + digit)) (some 0)

/-- The absolute value of a whole number without its sign: decimal, or hexadecimal, octal or
binary after `0x`, `0o` or `0b`. -/
def absolute? : List Char → Option Nat
  | '0' :: 'x' :: rest => baseValue? 16 rest
  | '0' :: 'o' :: rest => baseValue? 8 rest
  | '0' :: 'b' :: rest => baseValue? 2 rest
  | cs => if hasLeadingZero cs then none else baseValue? 10 cs

/-- The sign and absolute value of a whole number. -/
def integer? (cs : List Char) : Option (Bool × Nat) :=
  let (negative, rest) := splitSign cs
  (absolute? rest).map fun n => (negative, n)

/-- The value of a whole number without a minus sign that is at most `limit`. -/
def unsigned? (limit : Nat) (s : String) : Option Nat :=
  match s.toList with
  | '-' :: _ => none
  | cs => (integer? cs).bind fun (_, n) => if n ≤ limit then some n else none

/-- Whole numbers have 64 bits.  A number that does not fit but would fit into 128 bits is
refused; still larger ones are no whole numbers. -/
def boundedInteger (negative : Bool) (n : Nat) : Except Error (Option Int) :=
  let value : Int := if negative then -n else n
  if negative then
    if n ≤ Nat.pow 2 63 then .ok (some value)
    else if n ≤ Nat.pow 2 127 then .error (.mismatch "any YAML value")
    else .ok none
  else
    if n < Nat.pow 2 64 then .ok (some value)
    else if n < Nat.pow 2 128 then .error (.mismatch "any YAML value")
    else .ok none

/-- The whole number that a text denotes. -/
def readInteger (s : String) : Except Error (Option Int) :=
  match integer? s.toList with
  | some (negative, n) => boundedInteger negative n
  | none => .ok none

/-- The floating-point number that a text denotes.  Infinity and "not a number" have words of
their own; a literal too large for the format is none. -/
def float? (s : String) : Option Binary64 :=
  if s ∈ [".inf", ".Inf", ".INF", "+.inf", "+.Inf", "+.INF"] then
    some (.signed false .infinite)
  else if s ∈ ["-.inf", "-.Inf", "-.INF"] then some (.signed true .infinite)
  else if s ∈ [".nan", ".NaN", ".NAN"] then some .nan
  else (Binary64.readDecimal? s.toList).filter (·.isFinite)

/-- The meaning of a plain scalar without a tag. -/
def ScalarValue.ofPlain (s : String) : Except Error ScalarValue :=
  if s == "" || isNullWord s then .ok .null
  else
    match boolWord? s with
    | some b => .ok (.bool b)
    | none =>
        match readInteger s with
        | .error e => .error e
        | .ok (some i) => .ok (.int i)
        | .ok none =>
            if hasLeadingZero s.toList then .ok (.string s)
            else .ok ((float? s).elim (.string s) .float)

/-- The types for which the core schema has tags. -/
inductive CoreType where
  | bool
  | int
  | float
  | null
  deriving DecidableEq

/-- The tag of a core type. -/
def CoreType.tag : CoreType → String
  | .bool => "tag:yaml.org,2002:bool"
  | .int => "tag:yaml.org,2002:int"
  | .float => "tag:yaml.org,2002:float"
  | .null => "tag:yaml.org,2002:null"

/-- The core type of a tag. -/
def CoreType.ofTag? (tag : String) : Option CoreType :=
  [CoreType.bool, .int, .float, .null].find? (·.tag == tag)

/-- The meaning of a scalar of a given core type, in whatever style it is written. -/
def ScalarValue.ofType (type : CoreType) (s : String) : Except Error ScalarValue :=
  match type with
  | .bool =>
      match boolWord? s with
      | some b => .ok (.bool b)
      | none => .error (.mismatch "a boolean")
  | .int =>
      match readInteger s with
      | .error e => .error e
      | .ok (some i) => .ok (.int i)
      | .ok none => .error (.mismatch "an integer")
  | .float =>
      match float? s with
      | some x => .ok (.float x)
      | none => .error (.mismatch "a float")
  | .null => if isNullWord s then .ok .null else .error (.mismatch "null")

/-- A tag of the document itself, as opposed to a tag of a schema. -/
def isLocalTag (tag : String) : Bool :=
  tag.toList.head? == some '!'

/-- The meaning of a scalar with a tag that is not a local one, or without a tag. -/
def ScalarValue.read (tag : Option String) (style : Style) (s : String) :
    Except Error ScalarValue :=
  match tag with
  | none => if style = .plain then ScalarValue.ofPlain s else .ok (.string s)
  | some t =>
      match CoreType.ofTag? t with
      | some type => ScalarValue.ofType type s
      | none => .ok (.string s)

end ChartOperator.Yaml
