import ChartOperator.CommandLine.Usage
import ChartOperator.Startup.Run

/-!
# The process

What the program does as a process: it reads its command line, sets up its log and runs the
operator.  A failed run is logged as a last event.
-/

namespace ChartOperator

/-- What a process writes to its standard output. -/
inductive Output where
  | text (text : String)
  | events (format : LogFormat) (events : List Event)

/-- What becomes of a process. -/
structure ProcessResult where
  exitCode : Nat
  output : Output
  /-- What is written to standard error. -/
  complaint : Option String := none

/-- The result of a process that does not run the operator. -/
def UsageError.processResult : UsageError → ProcessResult
  | .helpRequested => { exitCode := 0, output := .text CommandLine.helpText }
  | .versionRequested => { exitCode := 0, output := .text CommandLine.versionText }
  | e => { exitCode := 2, output := .text "", complaint := some e.message }

/-- The filter for a log without any settings. -/
def defaultFilter : Filter := .ofDirectives [{ threshold := some .info }]

/-- The log filter: the one of the command line, else the one of the environment if it can be read,
else the default. -/
def logFilter (env : Environment) (options : RunOptions) : Except FilterError Filter :=
  match options.logLevel with
  | some text => Filter.parse text
  | none =>
      match env.get? .logFilter with
      | none => .ok defaultFilter
      | some text =>
          match Filter.parse text with
          | .ok filter => .ok filter
          | .error _ => .ok defaultFilter

/-- The last events of a run with a result. -/
def closingEvents : Except OperatorError Unit → List Event
  | .ok () => []
  | .error e => [.failed e.message]

/-- The exit code for the result of a run. -/
def exitCodeOf : Except OperatorError Unit → Nat
  | .ok () => 0
  | .error _ => 1

/-- Runs the operator with a log filter. -/
def runLogged (options : RunOptions) (filter : Filter) (around : Surroundings) : ProcessResult :=
  let run := runOperator options.flags around
  let events := run.events ++ closingEvents run.result
  let logged := events.filter fun event => filter.admits event.occurrence
  { exitCode := exitCodeOf run.result
    output := .events options.logFormat logged }

/-- Runs the program with a whole command line. -/
def runProcess (arguments : List Argument) (around : Surroundings) : ProcessResult :=
  match CommandLine.parse arguments with
  | .error e => e.processResult
  | .ok options =>
      match logFilter around.sources.environment options with
      | .error e => { exitCode := 1, output := .text "", complaint := some e.message }
      | .ok filter => runLogged options filter around

end ChartOperator
