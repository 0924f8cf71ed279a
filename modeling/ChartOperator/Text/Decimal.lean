/-!
# Whole numbers in decimal notation

Reading of unsigned decimal numbers with an upper limit, and the printing of numbers.  A number
is an optional plus sign followed by one or more ASCII digits; leading zeros are allowed.
-/

namespace ChartOperator.Text

/-- The largest value of a 64-bit word, the limit of counts and concurrency settings. -/
def maxWord64 : Nat := 18446744073709551615

/-- The largest value of a 16-bit word, the limit of port numbers. -/
def maxWord16 : Nat := 65535

/-- Why a text is no number. -/
inductive NumberError where
  /-- The text has no character at all. -/
  | empty
  /-- A character is no digit, or no digit follows the sign. -/
  | invalidDigit
  /-- The digits read so far already exceed the limit. -/
  | tooLarge
  deriving DecidableEq

/-- The wording of a number error. -/
def NumberError.message : NumberError → String
  | .empty => "cannot parse integer from empty string"
  | .invalidDigit => "invalid digit found in string"
  | .tooLarge => "number too large to fit in target type"

/-- The value of a digit in the given base, letters standing for ten and above in either case. -/
def digitValue? (base : Nat) (c : Char) : Option Nat :=
  let value? :=
    if '0' ≤ c ∧ c ≤ '9' then some (c.toNat - '0'.toNat)
    else if 'a' ≤ c ∧ c ≤ 'z' then some (c.toNat - 'a'.toNat + 10)
    else if 'A' ≤ c ∧ c ≤ 'Z' then some (c.toNat - 'A'.toNat + 10)
    else none
  value?.filter (· < base)

/-- Reads further digits onto a value.  The first character that is no digit, or the first digit
that takes the value over the limit, decides the error. -/
def readDigits (base limit : Nat) (value : Nat) : List Char → Except NumberError Nat
  | [] => .ok value
  | c :: rest =>
      match digitValue? base c with
      | none => .error .invalidDigit
      | some digit =>
          if limit < value * base + digit then .error .tooLarge
          else readDigits base limit (value * base + digit) rest

/-- Reads an unsigned number of the given base that is at most `limit`. -/
def readUnsigned (base limit : Nat) : List Char → Except NumberError Nat
  | [] => .error .empty
  | ['+'] => .error .invalidDigit
  | '+' :: rest => readDigits base limit 0 rest
  | cs => readDigits base limit 0 cs

/-- Reads an unsigned decimal number that is at most `limit`. -/
def readNat (limit : Nat) (s : String) : Except NumberError Nat :=
  readUnsigned 10 limit s.toList

/-- The decimal digits of a number. -/
def showNat (n : Nat) : String :=
  toString n

/-- The value of a run of ASCII digits, read onto a value. -/
def digitsValue (value : Nat) (cs : List Char) : Nat :=
  cs.foldl (fun acc c => acc * 10 + (c.toNat - '0'.toNat)) value

end ChartOperator.Text
