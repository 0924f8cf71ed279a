import ChartOperator.Text.Decimal

/-!
# Log levels

How important an event is, and the thresholds from which on events are logged.
-/

namespace ChartOperator

/-- The importance of an event. -/
inductive Level where
  | error
  | warn
  | info
  | debug
  | trace
  deriving DecidableEq

namespace Level

/-- All levels, the most important first. -/
def all : List Level := [error, warn, info, debug, trace]

/-- The word for a level. -/
def name : Level → String
  | error => "ERROR"
  | warn => "WARN"
  | info => "INFO"
  | debug => "DEBUG"
  | trace => "TRACE"

/-- The place of a level, counted from one for the most important. -/
def rank : Level → Nat
  | error => 1
  | warn => 2
  | info => 3
  | debug => 4
  | trace => 5

end Level

/-- The least important level that is still logged; `none` switches logging off. -/
abbrev Threshold := Option Level

namespace Threshold

/-- Whether a threshold lets a level pass. -/
def admits (threshold : Threshold) (level : Level) : Bool :=
  match threshold with
  | none => false
  | some least => level.rank ≤ least.rank

/-- The more talkative of two thresholds. -/
def max (a b : Threshold) : Threshold :=
  match a, b with
  | none, _ => b
  | _, none => a
  | some x, some y => if x.rank ≤ y.rank then b else a

/-- The threshold that a word stands for: a level or `off` in either case, or its rank. -/
def read? (word : List Char) : Option Threshold :=
  let upper := String.ofList (word.map Char.toUpper)
  match Text.readUnsigned 10 Text.maxWord64 word with
  | .ok 0 => some none
  | .ok n => (Level.all.find? fun level => level.rank = n).map some
  | .error _ =>
      if upper = "OFF" then some none
      else (Level.all.find? fun level => level.name = upper).map some

end Threshold

end ChartOperator
