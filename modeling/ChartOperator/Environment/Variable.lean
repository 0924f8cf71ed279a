import ChartOperator.Environment.Expansion

/-!
# The variables of the operator

The environment variables that the operator itself reads.
-/

namespace ChartOperator

/-- A variable that the operator reads. -/
inductive Variable where
  /-- The namespaces to watch. -/
  | watchNamespace
  /-- An older source of the leader election id. -/
  | operatorName
  | watchesFile
  | metricsBindAddress
  | healthProbeBindAddress
  | leaderElect
  | leaderElectionId
  | leaderElectionNamespace
  | maxConcurrentReconciles
  | reconcilePeriod
  /-- The log filter, unless a flag sets it. -/
  | logFilter
  deriving DecidableEq

/-- All variables that the operator reads. -/
def Variable.all : List Variable :=
  [.watchNamespace, .operatorName, .watchesFile, .metricsBindAddress, .healthProbeBindAddress,
   .leaderElect, .leaderElectionId, .leaderElectionNamespace, .maxConcurrentReconciles,
   .reconcilePeriod, .logFilter]

/-- The name of a variable in the environment. -/
def Variable.name : Variable → String
  | .watchNamespace => "WATCH_NAMESPACE"
  | .operatorName => "OPERATOR_NAME"
  | .watchesFile => "HELM_OPERATOR_WATCHES_FILE"
  | .metricsBindAddress => "HELM_OPERATOR_METRICS_BIND_ADDRESS"
  | .healthProbeBindAddress => "HELM_OPERATOR_HEALTH_PROBE_BIND_ADDRESS"
  | .leaderElect => "HELM_OPERATOR_LEADER_ELECT"
  | .leaderElectionId => "HELM_OPERATOR_LEADER_ELECTION_ID"
  | .leaderElectionNamespace => "HELM_OPERATOR_LEADER_ELECTION_NAMESPACE"
  | .maxConcurrentReconciles => "HELM_OPERATOR_MAX_CONCURRENT_RECONCILES"
  | .reconcilePeriod => "HELM_OPERATOR_RECONCILE_PERIOD"
  | .logFilter => "RUST_LOG"

namespace Environment

/-- The value of a variable, if it is set. -/
def get? (env : Environment) (v : Variable) : Option String :=
  env v.name

/-- The value of a variable, where an empty one counts as unset. -/
def nonEmpty? (env : Environment) (v : Variable) : Option String :=
  (env.get? v).filter (· ≠ "")

end Environment

end ChartOperator
