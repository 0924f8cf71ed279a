import ChartOperator.Text.Decimal

/-!
# Binary floating point of 64 bits

Non-negative numbers of the 64-bit binary format, as whole multiples of its smallest positive
value `2^-1074`.  Every operation computes exactly in the naturals and rounds once, to the
nearest representable number with ties to the even neighbour.
-/

namespace ChartOperator

/-- The quotient rounded to the nearest natural; a tie goes to the even neighbour. -/
def roundHalfEven (num den : Nat) : Nat :=
  let quotient := num / den
  let rest := num % den
  if 2 * rest < den then quotient
  else if den < 2 * rest then quotient + 1
  else if quotient % 2 = 0 then quotient
  else quotient + 1

/-- A non-negative number of the format. -/
inductive Magnitude where
  /-- A finite number, as a multiple of `2^-1074`. -/
  | finite (quanta : Nat)
  | infinite
  deriving DecidableEq

namespace Magnitude

/-- The number of quanta in one. -/
def one : Nat := Nat.pow 2 1074

/-- The number of quanta at which the finite numbers end. -/
def overflow : Nat := Nat.pow 2 2098

/-- The magnitude nearest to a quotient of quanta. -/
def nearestQuanta (num den : Nat) : Magnitude :=
  let quotient := num / den
  let step := Nat.pow 2 (quotient.log2 - 52)
  let quanta := roundHalfEven num (den * step) * step
  if overflow ≤ quanta then infinite else finite quanta

/-- The magnitude nearest to the number `num / den`. -/
def ofRatio (num den : Nat) : Magnitude :=
  nearestQuanta (num * one) den

/-- The sum, rounded. -/
def add : Magnitude → Magnitude → Magnitude
  | finite a, finite b => nearestQuanta (a + b) 1
  | _, _ => infinite

/-- The product with a positive finite number, rounded. -/
def mul : Magnitude → Magnitude → Magnitude
  | finite a, finite b => nearestQuanta (a * b) one
  | _, _ => infinite

/-- The magnitude nearest to `significand * 10 ^ exponent`, where the significand has the given
number of digits.  Exponents far outside the range of the format are decided without computing
the power. -/
def ofDecimal (significand digits : Nat) (exponent : Int) : Magnitude :=
  if significand = 0 then finite 0
  else if 400 < (digits : Int) + exponent then infinite
  else if (digits : Int) + exponent < -400 then finite 0
  else if 0 ≤ exponent then ofRatio (significand * Nat.pow 10 exponent.toNat) 1
  else ofRatio significand (Nat.pow 10 (-exponent).toNat)

/-- The bits of a magnitude with a clear sign bit. -/
def bits : Magnitude → Nat
  | infinite => 0x7FF0000000000000
  | finite quanta =>
      if quanta < Nat.pow 2 52 then quanta
      else
        let shift := quanta.log2 - 52
        (shift + 1) * Nat.pow 2 52 + (quanta / Nat.pow 2 shift - Nat.pow 2 52)

end Magnitude

/-- A number of the format. -/
inductive Binary64 where
  | nan
  | signed (negative : Bool) (magnitude : Magnitude)
  deriving DecidableEq

namespace Binary64

/-- The 64 bits of a number; there is one pattern for "not a number". -/
def bits : Binary64 → Nat
  | nan => 0x7FF8000000000000
  | signed negative magnitude => (if negative then Nat.pow 2 63 else 0) + magnitude.bits

/-- Equality of numbers, in which both zeros are equal and "not a number" equals itself. -/
def same : Binary64 → Binary64 → Bool
  | nan, nan => true
  | signed s a, signed t b => a == b && (s == t || a == .finite 0)
  | _, _ => false

/-- Splits off the longest run of ASCII digits. -/
def spanDigits (cs : List Char) : List Char × List Char :=
  (cs.takeWhile (·.isDigit), cs.dropWhile (·.isDigit))

/-- The exponent after the mark `e`: an optional sign and at least one digit, to the end. -/
def readExponent? (cs : List Char) : Option Int :=
  let (negative, digits) :=
    match cs with
    | '-' :: rest => (true, rest)
    | '+' :: rest => (false, rest)
    | _ => (false, cs)
  if digits.isEmpty || !digits.all (·.isDigit) then none
  else
    let value : Int := Text.digitsValue 0 digits
    some (if negative then -value else value)

/-- The magnitude of an unsigned decimal literal: digits with an optional point, at least one
digit in all, and an optional exponent. -/
def readMagnitude? (cs : List Char) : Option Magnitude :=
  let (whole, afterWhole) := spanDigits cs
  let (fraction, afterFraction) :=
    match afterWhole with
    | '.' :: rest => spanDigits rest
    | _ => ([], afterWhole)
  if whole.isEmpty && fraction.isEmpty then none
  else
    let exponent? : Option Int :=
      match afterFraction with
      | [] => some 0
      | 'e' :: rest => readExponent? rest
      | 'E' :: rest => readExponent? rest
      | _ => none
    exponent?.map fun exponent =>
      let significand := Text.digitsValue 0 (whole ++ fraction)
      .ofDecimal significand (toString significand).length (exponent - fraction.length)

/-- The number of a decimal literal with an optional sign. -/
def readDecimal? (cs : List Char) : Option Binary64 :=
  match cs with
  | '-' :: rest => (readMagnitude? rest).map (signed true)
  | '+' :: rest => (readMagnitude? rest).map (signed false)
  | _ => (readMagnitude? cs).map (signed false)

/-- Whether a number is neither infinite nor "not a number". -/
def isFinite : Binary64 → Bool
  | signed _ (.finite _) => true
  | _ => false

end Binary64

end ChartOperator
