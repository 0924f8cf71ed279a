import ChartOperator.Chart.Loader
import ChartOperator.Manager.Start
import ChartOperator.Startup.Plan
import ChartOperator.Watch.File

/-!
# A run of the operator

The stages of a run, each of which ends the run if it fails: the plan, the cluster client, the
options of the manager, its health checks, the watch list, the controllers, and at last the manager
itself.
-/

namespace ChartOperator

/-- Everything on which a run depends, besides its flags. -/
structure Surroundings where
  sources : ConfigSources
  /-- The cluster for which there is a client, if there is one. -/
  cluster : Except ClientFault Cluster
  host : Host := Host.permissive
  /-- How the manager comes to its end. -/
  course : Course := .ofSignal .terminate

/-- The check that every running operator passes. -/
def livenessCheck : HealthCheck := ⟨"healthz", none⟩

/-- The check that every running operator passes. -/
def readinessCheck : HealthCheck := ⟨"readyz", none⟩

/-- The manager with its two checks. -/
def Manager.attachChecks (manager : Manager) : Except ManagerError Manager := do
  let manager ← manager.addLiveness livenessCheck
  manager.addReadiness readinessCheck

/-- The binder that loads charts from directories and registers controllers with a manager. -/
def managerBinder (files : FileTree) (cluster : Cluster) : Binder Manager where
  load := Chart.load files
  register := Manager.register cluster

/-- A binding as a stage of a run. -/
def Binding.attempt {σ : Type} (binding : Binding σ) : Attempt BindError (σ × Nat) :=
  ⟨binding.configured.map fun watch => .log (.watchConfigured watch),
    binding.result.map fun count => (binding.registry, count)⟩

/-- The plan of a run, with what is logged about it. -/
def announcePlan (sources : ConfigSources) (flags : Flags) : Attempt OperatorError StartupPlan := do
  .log .version
  let plan ← .ofExcept (planRun sources flags)
  .logAll (plan.notices.map .notice)
  .log (.watching plan.scope)
  return plan

/-- The manager of a run, without controllers. -/
def prepareManager (plan : StartupPlan) : Attempt OperatorError Manager := do
  let options ← .ofExcept <|
    (ManagerOptions.ofSettings plan.settings plan.scope.cacheStrategy).mapError fun cause =>
      .manager (.bindAddress cause)
  let manager ← Manager.create options
  .ofExcept (manager.attachChecks.mapError .healthCheck)

/-- Binds the watches of a run. -/
def bindWatches (sources : ConfigSources) (cluster : Cluster) (plan : StartupPlan)
    (manager : Manager) : Attempt OperatorError (Manager × Nat) := do
  let path := plan.settings.watchesFile
  let watches ← .ofExcept ((loadWatches sources.files sources.environment path).mapError .watches)
  .log (.watchesLoaded watches.length path)
  let binder := managerBinder sources.files cluster
  (binder.bind plan.tuning manager watches).attempt.mapError .bind

/-- A run of the operator. -/
def runOperator (flags : Flags) (around : Surroundings) : Attempt OperatorError Unit := do
  let plan ← announcePlan around.sources flags
  .act .inferClient
  let cluster ← .ofExcept (around.cluster.mapError .client)
  let manager ← prepareManager plan
  let (manager, bound) ← bindWatches around.sources cluster plan manager
  .log (.operatorStarting bound)
  (manager.start around.host around.course).mapError .runLoop
  .log .managerStopped

end ChartOperator
