import ChartOperator.Config.Flags
import ChartOperator.Duration.Parser
import ChartOperator.Environment.Variable
import ChartOperator.Text.Decimal
import ChartOperator.Yaml.Error

/-!
# Configuration errors

Why the flags, the environment and the configuration file do not make up a configuration.
-/

namespace ChartOperator

/-- What is wrong with the value of a variable. -/
inductive VariableFault where
  | noBoolean
  | noNumber (cause : Text.NumberError)
  | noDuration (cause : Duration.ParseError)
  deriving DecidableEq

/-- The wording of a fault. -/
def VariableFault.reason : VariableFault → String
  | .noBoolean => "expected a boolean"
  | .noNumber cause => cause.message
  | .noDuration cause => cause.message

/-- The causes for which a configuration is refused. -/
inductive ConfigError where
  /-- A flag is given under both of its names. -/
  | conflictingFlags (legacy : LegacyFlag)
  | unreadableFile (path : Path) (cause : FileError)
  | malformedFile (path : Path) (cause : Yaml.Error)
  | invalidVariable (v : Variable) (value : String) (fault : VariableFault)
  /-- Not a single reconcile may run. -/
  | zeroConcurrency
  deriving DecidableEq

/-- The wording of a configuration error. -/
def ConfigError.message : ConfigError → String
  | .conflictingFlags legacy =>
      s!"only one of --{legacy.replacement} and --{legacy.name} may be set"
  | .unreadableFile path cause =>
      s!"unable to read manager config file {path.display}: {cause.message}"
  | .malformedFile path cause =>
      s!"unable to parse manager config file {path.display}: {cause.message}"
  | .invalidVariable v value fault =>
      s!"invalid value '{value}' for {v.name}: {fault.reason}"
  | .zeroConcurrency => "invalid max concurrent reconciles: must be at least 1"

end ChartOperator
