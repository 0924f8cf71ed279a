import ChartOperator.Config.Resolution
import ChartOperator.Scope
import ChartOperator.Startup.Error

/-!
# Planning a run

Everything that is decided before the cluster is asked for anything: the settings and the namespaces
to watch.
-/

namespace ChartOperator

/-- What is decided about a run. -/
structure StartupPlan where
  settings : Settings
  scope : Scope
  notices : List Notice
  deriving DecidableEq

/-- The settings for watches that have none of their own. -/
def StartupPlan.tuning (plan : StartupPlan) : Tuning where
  maxConcurrentReconciles := plan.settings.maxConcurrentReconciles
  reconcilePeriod := plan.settings.reconcilePeriod

/-- Where a run gets its configuration from, besides its flags. -/
structure ConfigSources where
  files : FileTree
  environment : Environment
  /-- The number of processors, which limits the reconciles unless the configuration does. -/
  processors : Nat

/-- Reads the configuration file that the flags name, if they name one. -/
def readConfigFile (files : FileTree) (flags : Flags) : Except ConfigError ConfigFile :=
  match flags.configFile with
  | none => .ok {}
  | some path => ConfigFile.load files path

/-- Reads and merges the configuration.  Conflicts of flags count before anything is read. -/
def resolveAll (sources : ConfigSources) (flags : Flags) : Except ConfigError Resolution := do
  checkFlags flags
  let file ← readConfigFile sources.files flags
  let values ← VariableSettings.ofEnvironment sources.environment
  resolve {
    flags := flags
    environment := values
    file := file
    defaults := { maxConcurrentReconciles := sources.processors } }

/-- The plan on settings that are supported. -/
def StartupPlan.ofResolution (env : Environment) (resolution : Resolution) : StartupPlan where
  settings := resolution.settings
  scope := Scope.decide (env.get? .watchNamespace) resolution.settings.watchedNamespace
  notices := resolution.notices

/-- Plans a run. -/
def planRun (sources : ConfigSources) (flags : Flags) : Except OperatorError StartupPlan :=
  match resolveAll sources flags with
  | .error cause => .error (.config cause)
  | .ok resolution =>
      match resolution.settings.unsupported with
      | [] => .ok (.ofResolution sources.environment resolution)
      | fields => .error (.unsupported fields)

end ChartOperator
