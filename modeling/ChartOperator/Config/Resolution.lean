import ChartOperator.Config.File
import ChartOperator.Config.Settings
import ChartOperator.Config.Variables

/-!
# Merging the sources of a configuration

A setting may come from a flag, a variable, the configuration file or the defaults; the first of
them that sets it wins.  Older ways to give a setting still work and are noticed.
-/

namespace ChartOperator

/-- The sources of a configuration. -/
structure Sources where
  flags : Flags
  environment : VariableSettings
  file : ConfigFile
  defaults : Defaults

/-- Something worth a warning in an accepted configuration. -/
inductive Notice where
  | deprecatedFlag (legacy : LegacyFlag)
  /-- The leader election id may come from an older variable. -/
  | deprecatedOperatorName
  /-- The older variable is set, but a flag gives the leader election id. -/
  | operatorNameIgnored
  deriving DecidableEq

/-- The wording of a notice. -/
def Notice.message : Notice → String
  | .deprecatedFlag legacy =>
      s!"flag --{legacy.name} is deprecated, use --{legacy.replacement} instead"
  | .deprecatedOperatorName =>
      s!"environment variable {Variable.operatorName.name} is deprecated, " ++
        "use --leader-election-id instead"
  | .operatorNameIgnored =>
      s!"ignoring {Variable.operatorName.name} environment variable " ++
        "since --leader-election-id is set"

/-- A configuration with what was noticed about it. -/
structure Resolution where
  settings : Settings
  notices : List Notice
  deriving DecidableEq

/-- A text of the configuration file, where an empty one counts as absent. -/
def nonEmpty (text : Option String) : Option String :=
  text.filter (· ≠ "")

namespace Sources

/-- The notices about the older ways that are used. -/
def notices (s : Sources) : List Notice :=
  s.flags.legacy.map .deprecatedFlag ++
    if s.environment.operatorName.isSome then
      .deprecatedOperatorName ::
        if s.flags.leaderElectionId.isSome then [.operatorNameIgnored] else []
    else []

/-- The name of the lock. -/
def leaderElectionId (s : Sources) : Option String :=
  s.flags.leaderElectionId <|> s.environment.leaderElectionId <|>
    nonEmpty s.file.leaderElection.resourceName <|> nonEmpty s.environment.operatorName

/-- The settings for leader election. -/
def leaderElection (s : Sources) : LeaderElection where
  enabled :=
    (s.flags.leaderElection <|> s.environment.leaderElect <|>
      s.file.leaderElection.leaderElect).getD s.defaults.leaderElection
  id := s.leaderElectionId
  lockNamespace :=
    s.flags.leaderElectionNamespace <|> s.environment.leaderElectionNamespace <|>
      nonEmpty s.file.leaderElection.resourceNamespace

/-- The options for a webhook server. -/
def webhook (s : Sources) : WebhookOptions where
  certDir := s.file.webhook.certDir.getD ""
  host := s.file.webhook.host.getD ""
  port := s.file.webhook.port.getD 0

/-- The merged configuration. -/
def settings (s : Sources) : Settings where
  configFile := s.flags.configFile
  watchesFile :=
    (s.flags.watchesFile <|> s.environment.watchesFile).getD s.defaults.watchesFile
  metricsBindAddress :=
    (s.flags.metricsAddress <|> s.environment.metricsBindAddress <|>
      nonEmpty s.file.metricsBindAddress).getD s.defaults.metricsBindAddress
  healthProbeBindAddress :=
    (s.flags.healthProbeBindAddress <|> s.environment.healthProbeBindAddress <|>
      nonEmpty s.file.healthProbeBindAddress).getD s.defaults.healthProbeBindAddress
  leaderElection := s.leaderElection
  maxConcurrentReconciles :=
    (s.flags.maxConcurrentReconciles <|> s.environment.maxConcurrentReconciles).getD
      s.defaults.maxConcurrentReconciles
  reconcilePeriod :=
    (s.flags.reconcilePeriod <|> s.environment.reconcilePeriod).getD s.defaults.reconcilePeriod
  watchedNamespace := nonEmpty s.file.cacheNamespace
  webhook := s.webhook

end Sources

/-- Refuses flags that are given under both of their names. -/
def checkFlags (flags : Flags) : Except ConfigError Unit :=
  match flags.conflict? with
  | some legacy => .error (.conflictingFlags legacy)
  | none => .ok ()

/-- Merges the sources of a configuration. -/
def resolve (sources : Sources) : Except ConfigError Resolution :=
  match checkFlags sources.flags with
  | .error e => .error e
  | .ok () =>
      if sources.settings.maxConcurrentReconciles = 0 then .error .zeroConcurrency
      else .ok ⟨sources.settings, sources.notices⟩

end ChartOperator
