import ChartOperator.Duration.Basic
import ChartOperator.FileTree.Path

/-!
# Settings

The configuration on which the operator runs, once all of its sources are merged, and the values
for what no source sets.
-/

namespace ChartOperator

/-- Whether and how one of several operators is to be elected. -/
structure LeaderElection where
  enabled : Bool := false
  /-- The name of the lock. -/
  id : Option String := none
  /-- The namespace of the lock. -/
  lockNamespace : Option String := none
  deriving DecidableEq

/-- Options for a webhook server; an empty text or the port zero stands for "not set". -/
structure WebhookOptions where
  certDir : String := ""
  host : String := ""
  port : Nat := 0
  deriving DecidableEq

/-- The merged configuration. -/
structure Settings where
  configFile : Option Path
  watchesFile : Path
  metricsBindAddress : String
  healthProbeBindAddress : String
  leaderElection : LeaderElection
  maxConcurrentReconciles : Nat
  /-- The time between two reconciles of a resource; zero means that only changes count. -/
  reconcilePeriod : Duration
  /-- The namespace to watch when no signal selects one. -/
  watchedNamespace : Option String
  webhook : WebhookOptions
  deriving DecidableEq

/-- The values of settings that no source sets. -/
structure Defaults where
  watchesFile : Path := Path.ofString "./watches.yaml"
  metricsBindAddress : String := ":8080"
  healthProbeBindAddress : String := ":8081"
  leaderElection : Bool := false
  /-- As many reconciles as there are processors, if it is not given. -/
  maxConcurrentReconciles : Nat
  reconcilePeriod : Duration := Duration.ofSeconds 60
  deriving DecidableEq

/-- The options of a webhook server that can be set. -/
inductive WebhookField where
  | certDir
  | host
  | port
  deriving DecidableEq

/-- The name of a webhook option. -/
def WebhookField.name : WebhookField → String
  | .certDir => "certDir"
  | .host => "host"
  | .port => "port"

/-- Whether a webhook option is set. -/
def WebhookOptions.isSet (webhook : WebhookOptions) : WebhookField → Bool
  | .certDir => webhook.certDir ≠ ""
  | .host => webhook.host ≠ ""
  | .port => webhook.port ≠ 0

/-- The webhook options that are set.  The operator serves no webhooks, so it refuses them. -/
def Settings.unsupported (settings : Settings) : List WebhookField :=
  [WebhookField.certDir, .host, .port].filter settings.webhook.isSet

/-- The message about webhook options that are set. -/
def unsupportedMessage (fields : List WebhookField) : String :=
  let names := String.intercalate ", " (fields.map WebhookField.name)
  s!"manager option(s) {names} set but unsupported: this operator does not serve webhooks"

end ChartOperator
