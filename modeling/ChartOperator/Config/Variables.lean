import ChartOperator.Config.Error
import ChartOperator.Text.Blank

/-!
# Settings from the environment

The settings that environment variables hold.  An empty variable counts as unset, except for the
older source of the leader election id, whose mere presence is reported.
-/

namespace ChartOperator

/-- The settings that environment variables hold. -/
structure VariableSettings where
  watchesFile : Option Path := none
  metricsBindAddress : Option String := none
  healthProbeBindAddress : Option String := none
  leaderElect : Option Bool := none
  leaderElectionId : Option String := none
  leaderElectionNamespace : Option String := none
  maxConcurrentReconciles : Option Nat := none
  reconcilePeriod : Option Duration := none
  /-- The older source of the leader election id, which may be empty. -/
  operatorName : Option String := none
  deriving DecidableEq

namespace VariableSettings

/-- The truth value that a word stands for, in either case. -/
def readBool (value : String) : Except VariableFault Bool :=
  let word := String.ofList ((Text.trimChars value.toList).map Char.toLower)
  if word ∈ ["true", "1", "yes", "on"] then .ok true
  else if word ∈ ["false", "0", "no", "off"] then .ok false
  else .error .noBoolean

/-- The number that a word stands for. -/
def readNumber (value : String) : Except VariableFault Nat :=
  (Text.readNat Text.maxWord64 (Text.trim value)).mapError .noNumber

/-- The duration that a word stands for. -/
def readDuration (value : String) : Except VariableFault Duration :=
  (Duration.parse value).mapError .noDuration

/-- Reads the value of a variable, unless it is unset. -/
def readVariable {α : Type} (env : Environment) (v : Variable)
    (read : String → Except VariableFault α) : Except ConfigError (Option α) :=
  match env.nonEmpty? v with
  | none => .ok none
  | some value =>
      match read value with
      | .ok a => .ok (some a)
      | .error fault => .error (.invalidVariable v value fault)

/-- Reads the settings from an environment. -/
def ofEnvironment (env : Environment) : Except ConfigError VariableSettings := do
  let leaderElect ← readVariable env .leaderElect readBool
  let maxConcurrentReconciles ← readVariable env .maxConcurrentReconciles readNumber
  let reconcilePeriod ← readVariable env .reconcilePeriod readDuration
  .ok {
    watchesFile := (env.nonEmpty? .watchesFile).map Path.ofString
    metricsBindAddress := env.nonEmpty? .metricsBindAddress
    healthProbeBindAddress := env.nonEmpty? .healthProbeBindAddress
    leaderElect := leaderElect
    leaderElectionId := env.nonEmpty? .leaderElectionId
    leaderElectionNamespace := env.nonEmpty? .leaderElectionNamespace
    maxConcurrentReconciles := maxConcurrentReconciles
    reconcilePeriod := reconcilePeriod
    operatorName := env.get? .operatorName }

end VariableSettings

end ChartOperator
