import ChartOperator.Build
import ChartOperator.CommandLine.Parser

/-!
# Texts about the command line

What is printed on request, and what is said about a command line that cannot be read.
-/

namespace ChartOperator

namespace CommandLine

/-- The line for a flag in the help text. -/
def flagLine (flag : Flag) : String :=
  s!"      --{flag.name}" ++ (if flag.isSwitch then "[=<VALUE>]" else " <VALUE>") ++ "\n"

/-- The help text. -/
def helpText : String :=
  s!"Usage: {Build.program} run [OPTIONS]\n\nOptions:\n" ++
    String.join (Flag.all.map flagLine)

/-- The version as it is printed. -/
def versionText : String :=
  s!"{Build.program} {Build.version}\n"

end CommandLine

/-- The wording of a usage error. -/
def UsageError.message : UsageError → String
  | .helpRequested => "the help text is asked for"
  | .versionRequested => "the version is asked for"
  | .noCommand => "a command is required"
  | .unknownCommand => "unknown command"
  | .unknownArgument => "unexpected argument"
  | .repeatedFlag => "a flag cannot be used multiple times"
  | .unexpectedValue => "unexpected value for a flag"
  | .badChoice => "a value is missing or not one of the possible values"
  | .noText => "invalid UTF-8 was detected in a value"
  | .unreadableValue => "invalid value for a flag"

end ChartOperator
