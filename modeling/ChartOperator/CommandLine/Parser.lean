import ChartOperator.CommandLine.Flag
import ChartOperator.Duration.Parser
import ChartOperator.Text.Decimal

/-!
# Reading the command line

A command line is the name of the program, the name of a command and the flags of the command.
Arguments are read from left to right.  The value of a flag stands in the same argument after an
equals sign, or in the next one; a value in an argument of its own is read only when the next
known flag or the end shows that the flag is complete.
-/

namespace ChartOperator

/-- An argument of a command line, which need not be text. -/
abbrev Argument := Bytes

/-- The causes for which a command line does not start the operator. -/
inductive UsageError where
  /-- The help text is asked for. -/
  | helpRequested
  /-- The version is asked for. -/
  | versionRequested
  /-- There is no command. -/
  | noCommand
  | unknownCommand
  | unknownArgument
  /-- A flag is given twice. -/
  | repeatedFlag
  /-- A value for a flag that takes none. -/
  | unexpectedValue
  /-- A value is missing, or is none of the possible ones. -/
  | badChoice
  /-- A value that has to be a text is none. -/
  | noText
  /-- A value that cannot be read. -/
  | unreadableValue
  deriving DecidableEq

namespace CommandLine

/-- The byte of a dash. -/
def dash : UInt8 := 0x2D

/-- The byte of an equals sign. -/
def equalsSign : UInt8 := 0x3D

/-- The argument that ends the flags. -/
def separator : Argument := [dash, dash]

/-- The name and the attached value of an argument that starts with two dashes. -/
def longFlag? (argument : Argument) : Option (Bytes × Option Bytes) :=
  match argument with
  | d :: e :: rest =>
      if d = dash ∧ e = dash ∧ rest ≠ [] then
        match rest.dropWhile (· ≠ equalsSign) with
        | [] => some (rest, none)
        | _ :: value => some (rest.takeWhile (· ≠ equalsSign), some value)
      else none
  | _ => none

/-- The first letter of an argument that starts with one dash. -/
def shortFlag? (argument : Argument) : Option UInt8 :=
  match argument with
  | d :: letter :: _ => if d = dash ∧ letter ≠ dash then some letter else none
  | _ => none

/-- The letter that asks for help. -/
def helpLetter : UInt8 := 0x68

/-- The letter that asks for the version. -/
def versionLetter : UInt8 := 0x56

/-- Reads a text. -/
def readText (value : Bytes) : Except UsageError String :=
  match Utf8.decode? value with
  | some cs => .ok (String.ofList cs)
  | none => .error .noText

/-- Reads a path, which is not empty. -/
def readPath (value : Bytes) : Except UsageError Path :=
  if value.isEmpty then .error .badChoice else .ok ⟨value⟩

/-- Reads a truth value. -/
def readBool (value : Bytes) : Except UsageError Bool :=
  if value = Utf8.ofString "true" then .ok true
  else if value = Utf8.ofString "false" then .ok false
  else .error .badChoice

/-- Reads a number. -/
def readNumber (value : Bytes) : Except UsageError Nat := do
  let text ← readText value
  (Text.readNat Text.maxWord64 text).mapError fun _ => .unreadableValue

/-- Reads a duration. -/
def readDuration (value : Bytes) : Except UsageError Duration := do
  let text ← readText value
  (Duration.parse text).mapError fun _ => .unreadableValue

/-- Reads the name of a log format. -/
def readFormat (value : Bytes) : Except UsageError LogFormat :=
  if value = Utf8.ofString "text" then .ok .text
  else if value = Utf8.ofString "json" then .ok .json
  else .error .badChoice

/-- What is known while the arguments of the command `run` are read. -/
structure State where
  options : RunOptions := {}
  /-- The flags that are complete. -/
  given : List Flag := []

/-- Sets a flag to a value. -/
def assign (options : RunOptions) (flag : Flag) (value : Bytes) :
    Except UsageError RunOptions := do
  let flags := options.flags
  match flag with
  | .config => .ok { options with flags := { flags with configFile := ← readPath value } }
  | .watchesFile => .ok { options with flags := { flags with watchesFile := ← readPath value } }
  | .metricsBindAddress =>
      .ok { options with flags := { flags with metricsBindAddress := ← readText value } }
  | .metricsAddr => .ok { options with flags := { flags with metricsAddr := ← readText value } }
  | .healthProbeBindAddress =>
      .ok { options with flags := { flags with healthProbeBindAddress := ← readText value } }
  | .leaderElect => .ok { options with flags := { flags with leaderElect := ← readBool value } }
  | .enableLeaderElection =>
      .ok { options with flags := { flags with enableLeaderElection := ← readBool value } }
  | .leaderElectionId =>
      .ok { options with flags := { flags with leaderElectionId := ← readText value } }
  | .leaderElectionNamespace =>
      .ok { options with flags := { flags with leaderElectionNamespace := ← readText value } }
  | .maxConcurrentReconciles =>
      .ok { options with flags := { flags with maxConcurrentReconciles := ← readNumber value } }
  | .reconcilePeriod =>
      .ok { options with flags := { flags with reconcilePeriod := ← readDuration value } }
  | .logLevel => .ok { options with logLevel := ← readText value }
  | .logFormat => .ok { options with logFormat := ← readFormat value }

/-- Completes a flag with a value; no flag may be given twice. -/
def complete (state : State) (flag : Flag) (value : Bytes) : Except UsageError State := do
  if flag ∈ state.given then .error .repeatedFlag
  else .ok ⟨← assign state.options flag value, flag :: state.given⟩

/-- A flag whose value stands in the next argument, if it has come already. -/
abbrev Pending := Option (Flag × Option Bytes)

/-- Completes the flag that waits. -/
def settle (state : State) (pending : Pending) : Except UsageError State :=
  match pending with
  | none => .ok state
  | some (_, none) => .error .badChoice
  | some (flag, some value) => complete state flag value

/-- Reads the arguments of the command `run`.  No argument but the value of a flag may be without
a dash in front. -/
def readRun (state : State) (pending : Pending) : List Argument → Except UsageError RunOptions
  | [] => do
      let state ← settle state pending
      .ok state.options
  | argument :: rest =>
      if argument = separator then
        if rest.isEmpty then (settle state pending).map (·.options) else .error .unknownArgument
      else
        match longFlag? argument with
        | some (name, value?) =>
            match Flag.ofName? name with
            | some flag => do
                let state ← settle state pending
                match value? with
                | some value => readRun (← complete state flag value) none rest
                | none =>
                    if flag.isSwitch then
                      readRun (← complete state flag (Utf8.ofString "true")) none rest
                    else readRun state (some (flag, none)) rest
            | none =>
                if name = Utf8.ofString "help" then
                  if value?.isSome then .error .unexpectedValue
                  else do
                    let _ ← settle state pending
                    .error .helpRequested
                else .error .unknownArgument
        | none =>
            match shortFlag? argument with
            | some letter =>
                if letter = helpLetter then do
                  let _ ← settle state pending
                  .error .helpRequested
                else .error .unknownArgument
            | none =>
                match pending with
                | some (flag, none) => readRun state (some (flag, some argument)) rest
                | _ => .error .unknownArgument

/-- The names of the commands. -/
def commands : List Argument :=
  ["run", "help"].map Utf8.ofString

/-- Reads the arguments after the name of the program. -/
def readCommand : List Argument → Except UsageError RunOptions
  | [] => .error .noCommand
  | argument :: rest =>
      if argument = Utf8.ofString "run" then readRun {} none rest
      else if argument = Utf8.ofString "help" then
        match rest with
        | [] => .error .helpRequested
        | [command] =>
            if command ∈ commands then .error .helpRequested else .error .unknownCommand
        | _ => .error .unknownCommand
      else if argument = separator then
        match rest with
        | [] => .error .noCommand
        | next :: _ => if next ∈ commands then .error .unknownArgument else .error .unknownCommand
      else
        match longFlag? argument with
        | some (name, value?) =>
            if name ≠ Utf8.ofString "help" ∧ name ≠ Utf8.ofString "version" then
              .error .unknownArgument
            else if value?.isSome then .error .unexpectedValue
            else if name = Utf8.ofString "help" then .error .helpRequested
            else .error .versionRequested
        | none =>
            match shortFlag? argument with
            | some letter =>
                if letter = helpLetter then .error .helpRequested
                else if letter = versionLetter then .error .versionRequested
                else .error .unknownArgument
            | none => .error .unknownCommand

/-- Reads a whole command line, the name of the program included. -/
def parse (arguments : List Argument) : Except UsageError RunOptions :=
  readCommand arguments.tail

end CommandLine

end ChartOperator
