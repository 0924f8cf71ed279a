import ChartOperator.Duration.Basic
import ChartOperator.FileTree.Path

/-!
# Flags

The settings of the operator as they are given on the command line.  Every flag may be absent.
Two flags have an older name besides; a flag and its older name exclude each other, whatever
their values.
-/

namespace ChartOperator

/-- The flags of a command line. -/
structure Flags where
  configFile : Option Path := none
  watchesFile : Option Path := none
  metricsBindAddress : Option String := none
  metricsAddr : Option String := none
  healthProbeBindAddress : Option String := none
  leaderElect : Option Bool := none
  enableLeaderElection : Option Bool := none
  leaderElectionId : Option String := none
  leaderElectionNamespace : Option String := none
  maxConcurrentReconciles : Option Nat := none
  reconcilePeriod : Option Duration := none
  deriving DecidableEq

/-- An older name of a flag. -/
inductive LegacyFlag where
  | enableLeaderElection
  | metricsAddr
  deriving DecidableEq

namespace LegacyFlag

/-- The older names in the order in which they are checked. -/
def all : List LegacyFlag :=
  [enableLeaderElection, metricsAddr]

/-- The older name itself. -/
def name : LegacyFlag → String
  | enableLeaderElection => "enable-leader-election"
  | metricsAddr => "metrics-addr"

/-- The name of the flag that takes its place. -/
def replacement : LegacyFlag → String
  | enableLeaderElection => "leader-elect"
  | metricsAddr => "metrics-bind-address"

end LegacyFlag

namespace Flags

/-- Whether a flag is given under its older name. -/
def hasLegacy (flags : Flags) : LegacyFlag → Bool
  | .enableLeaderElection => flags.enableLeaderElection.isSome
  | .metricsAddr => flags.metricsAddr.isSome

/-- Whether the flag that takes the place of an older name is given. -/
def hasReplacement (flags : Flags) : LegacyFlag → Bool
  | .enableLeaderElection => flags.leaderElect.isSome
  | .metricsAddr => flags.metricsBindAddress.isSome

/-- The first older name that is given together with its replacement. -/
def conflict? (flags : Flags) : Option LegacyFlag :=
  LegacyFlag.all.find? fun legacy => flags.hasReplacement legacy && flags.hasLegacy legacy

/-- The older names that are given. -/
def legacy (flags : Flags) : List LegacyFlag :=
  LegacyFlag.all.filter flags.hasLegacy

/-- The metrics address under either name. -/
def metricsAddress (flags : Flags) : Option String :=
  flags.metricsBindAddress <|> flags.metricsAddr

/-- The leader election switch under either name. -/
def leaderElection (flags : Flags) : Option Bool :=
  flags.leaderElect <|> flags.enableLeaderElection

end Flags

end ChartOperator
