import ChartOperator.Text.Decimal

/-!
# Durations

Spans of time as whole nanoseconds, their limit, and the short form in which log events show
them: the largest unit of `s`, `ms`, `µs` and `ns` that gives a number of at least one, with as
many decimals as are needed.
-/

namespace ChartOperator

/-- A span of time, in nanoseconds. -/
structure Duration where
  nanoseconds : Nat
  deriving DecidableEq, Inhabited

namespace Duration

/-- The number of nanoseconds in a second. -/
def nanosPerSecond : Nat := 1000000000

/-- The empty span. -/
def zero : Duration := ⟨0⟩

/-- A whole number of seconds. -/
def ofSeconds (n : Nat) : Duration := ⟨n * nanosPerSecond⟩

/-- A number of seconds and of nanoseconds. -/
def ofParts (seconds nanos : Nat) : Duration := ⟨seconds * nanosPerSecond + nanos⟩

/-- The whole seconds of a duration. -/
def seconds (d : Duration) : Nat := d.nanoseconds / nanosPerSecond

/-- The nanoseconds past the last whole second. -/
def subsecond (d : Duration) : Nat := d.nanoseconds % nanosPerSecond

/-- Seconds are counted in 64-bit words, so durations of this many seconds and more do not
exist. -/
def secondsLimit : Nat := Nat.pow 2 64

@[simp]
theorem seconds_ofSeconds (n : Nat) : (ofSeconds n).seconds = n := by
  simp [seconds, ofSeconds, nanosPerSecond]

@[simp]
theorem subsecond_ofSeconds (n : Nat) : (ofSeconds n).subsecond = 0 := by
  simp [subsecond, ofSeconds]

/-- The decimals of `part / 10 ^ places`, without the zeros at the end. -/
def fractionDigits (part places : Nat) : List Char :=
  let digits := (toString part).toList
  let padded := List.replicate (places - digits.length) '0' ++ digits
  (padded.reverse.dropWhile (· == '0')).reverse

/-- A number of units with its decimals and the name of the unit. -/
def showUnits (whole part places : Nat) (unit : String) : String :=
  let fraction := fractionDigits part places
  let point := if fraction.isEmpty then "" else "."
  Text.showNat whole ++ point ++ String.ofList fraction ++ unit

/-- The short form of a duration, such as `60s`, `1.5s` or `500ms`. -/
def render (d : Duration) : String :=
  let nanos := d.nanoseconds
  if 0 < d.seconds then showUnits d.seconds d.subsecond 9 "s"
  else if 1000000 ≤ nanos then showUnits (nanos / 1000000) (nanos % 1000000) 6 "ms"
  else if 1000 ≤ nanos then showUnits (nanos / 1000) (nanos % 1000) 3 "µs"
  else showUnits nanos 0 0 "ns"

end Duration

end ChartOperator
