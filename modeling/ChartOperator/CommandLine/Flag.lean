import ChartOperator.Config.Flags

/-!
# Flags of the command line

The flags of the command `run` by name, and what they set.
-/

namespace ChartOperator

/-- A flag of the command `run` that takes a value. -/
inductive Flag where
  | config
  | watchesFile
  | metricsBindAddress
  | metricsAddr
  | healthProbeBindAddress
  | leaderElect
  | enableLeaderElection
  | leaderElectionId
  | leaderElectionNamespace
  | maxConcurrentReconciles
  | reconcilePeriod
  | logLevel
  | logFormat
  deriving DecidableEq

namespace Flag

/-- All flags. -/
def all : List Flag :=
  [config, watchesFile, metricsBindAddress, metricsAddr, healthProbeBindAddress, leaderElect,
   enableLeaderElection, leaderElectionId, leaderElectionNamespace, maxConcurrentReconciles,
   reconcilePeriod, logLevel, logFormat]

/-- The name of a flag, without the dashes. -/
def name : Flag → String
  | config => "config"
  | watchesFile => "watches-file"
  | metricsBindAddress => "metrics-bind-address"
  | metricsAddr => "metrics-addr"
  | healthProbeBindAddress => "health-probe-bind-address"
  | leaderElect => "leader-elect"
  | enableLeaderElection => "enable-leader-election"
  | leaderElectionId => "leader-election-id"
  | leaderElectionNamespace => "leader-election-namespace"
  | maxConcurrentReconciles => "max-concurrent-reconciles"
  | reconcilePeriod => "reconcile-period"
  | logLevel => "log-level"
  | logFormat => "log-format"

/-- The flag with a name. -/
def ofName? (name : Bytes) : Option Flag :=
  all.find? fun flag => Utf8.ofString flag.name == name

/-- A switch takes a value only after an equals sign; without one it means `true`. -/
def isSwitch : Flag → Bool
  | leaderElect | enableLeaderElection => true
  | _ => false

end Flag

/-- The forms in which events are logged. -/
inductive LogFormat where
  | text
  | json
  deriving DecidableEq

/-- What a command line of the command `run` asks for. -/
structure RunOptions where
  flags : Flags := {}
  logLevel : Option String := none
  logFormat : LogFormat := .text
  deriving DecidableEq

end ChartOperator
