import ChartOperator.Manager.Error
import ChartOperator.Manager.Options
import ChartOperator.Manager.Watcher

/-!
# The manager

The manager keeps the registered controllers and the health checks until it starts.  No two of its
controllers are for the same kind, and a refused registration leaves it as it was.
-/

namespace ChartOperator

/-- A manager. -/
structure Manager where
  options : ManagerOptions
  liveness : HealthChecks := {}
  readiness : HealthChecks := {}
  /-- The controllers in the order of their registration. -/
  controllers : List Controller := []

/-- What the operator is probed for. -/
inductive Probe where
  | liveness
  | readiness
  deriving DecidableEq

/-- What is logged about options when a manager is made. -/
def ManagerOptions.events (options : ManagerOptions) : List Event :=
  if options.leaderElection.enabled then [.leaderElectionRequested options.leaderElection] else []

namespace Manager

/-- A change of a manager that may be refused.  What has been changed before stays changed. -/
abbrev Update : Type → Type := ExceptT ManagerError (StateM Manager)

/-- What comes out of a change, and the manager after it. -/
def Update.apply {α : Type} (update : Update α) (manager : Manager) :
    Except ManagerError α × Manager :=
  update.run.run manager

/-- The manager after a change, unless the change is refused. -/
def Update.result (update : Update Unit) (manager : Manager) : Except ManagerError Manager :=
  match update.apply manager with
  | (.ok (), next) => .ok next
  | (.error e, _) => .error e

/-- The checks for a probe. -/
def checksFor (manager : Manager) : Probe → HealthChecks
  | .liveness => manager.liveness
  | .readiness => manager.readiness

/-- The manager with other checks for a probe. -/
def withChecks (manager : Manager) (checks : HealthChecks) : Probe → Manager
  | .liveness => { manager with liveness := checks }
  | .readiness => { manager with readiness := checks }

/-- A change of the checks for a probe as a change of the manager. -/
def changeChecks (probe : Probe) (update : HealthChecks.Update Unit) : Update Unit :=
  fun manager =>
    let (outcome, checks) := update.apply (manager.checksFor probe)
    (outcome.mapError .duplicateCheck, manager.withChecks checks probe)

/-- Adds a check to those for a probe. -/
def enterCheck (probe : Probe) (check : HealthCheck) : Update Unit :=
  changeChecks probe (HealthChecks.enter check)

/-- The manager with a further check for liveness. -/
def addLiveness (manager : Manager) (check : HealthCheck) : Except ManagerError Manager :=
  (enterCheck .liveness check).result manager

/-- The manager with a further check for readiness. -/
def addReadiness (manager : Manager) (check : HealthCheck) : Except ManagerError Manager :=
  (enterCheck .readiness check).result manager

/-- The kinds of the controllers. -/
def kinds (manager : Manager) : List Gvk :=
  manager.controllers.map Controller.gvk

/-- Adds a controller, unless there is one for its kind already. -/
def addController (controller : Controller) : Update Unit := do
  if controller.gvk ∈ (← get).kinds then throw (.duplicateController controller.gvk)
  modify fun manager => { manager with controllers := manager.controllers ++ [controller] }

/-- Registers a controller for a reconciler, once the cluster knows its kind. -/
def enroll (cluster : Cluster) (r : Reconciler) : Update Unit :=
  match cluster.discover r.gvk with
  | .error cause => throw (.discovery r.gvk cause)
  | .ok type => addController ⟨r, type⟩

/-- The manager with which a reconciler is registered. -/
def register (cluster : Cluster) (manager : Manager) (r : Reconciler) :
    Except ManagerError Manager :=
  match (enroll cluster r).apply manager with
  | (.ok (), next) => .ok next
  | (.error e, _) => .error e

theorem apply_enterCheck (probe : Probe) (check : HealthCheck) (manager : Manager) :
    (enterCheck probe check).apply manager =
      (((HealthChecks.enter check).apply (manager.checksFor probe)).1.mapError .duplicateCheck,
        manager.withChecks ((HealthChecks.enter check).apply (manager.checksFor probe)).2 probe) :=
  rfl

/-- A check for a probe is added to the checks for this probe. -/
theorem result_enterCheck (probe : Probe) (check : HealthCheck) (manager : Manager) :
    (enterCheck probe check).result manager =
      (((manager.checksFor probe).add check).mapError .duplicateCheck).map fun checks =>
        manager.withChecks checks probe := by
  rw [Update.result, apply_enterCheck, HealthChecks.add]
  rcases (HealthChecks.enter check).apply (manager.checksFor probe) with ⟨e | _, checks⟩
  · rfl
  · rfl

theorem apply_addController (manager : Manager) (controller : Controller) :
    (addController controller).apply manager =
      if controller.gvk ∈ manager.kinds then
        (.error (.duplicateController controller.gvk), manager)
      else (.ok (), { manager with controllers := manager.controllers ++ [controller] }) := by
  by_cases known : controller.gvk ∈ manager.kinds
  · rw [if_pos known]
    change (if controller.gvk ∈ manager.kinds then _ else _ : Update Unit).apply manager = _
    rw [if_pos known]
    rfl
  · rw [if_neg known]
    change (if controller.gvk ∈ manager.kinds then _ else _ : Update Unit).apply manager = _
    rw [if_neg known]
    rfl

theorem apply_enroll (cluster : Cluster) (manager : Manager) (r : Reconciler) :
    (enroll cluster r).apply manager =
      match cluster.discover r.gvk with
      | .error cause => (.error (.discovery r.gvk cause), manager)
      | .ok type =>
          if r.gvk ∈ manager.kinds then (.error (.duplicateController r.gvk), manager)
          else (.ok (), { manager with controllers := manager.controllers ++ [⟨r, type⟩] }) := by
  unfold enroll
  cases cluster.discover r.gvk with
  | error cause => rfl
  | ok type => exact apply_addController manager ⟨r, type⟩

theorem register_eq (cluster : Cluster) (manager : Manager) (r : Reconciler) :
    register cluster manager r =
      match cluster.discover r.gvk with
      | .error cause => .error (.discovery r.gvk cause)
      | .ok type =>
          if r.gvk ∈ manager.kinds then .error (.duplicateController r.gvk)
          else .ok { manager with controllers := manager.controllers ++ [⟨r, type⟩] } := by
  rw [register, apply_enroll]
  cases cluster.discover r.gvk with
  | error cause => rfl
  | ok type =>
      by_cases known : r.gvk ∈ manager.kinds
      · simp [known]
      · simp [known]

/-- The servers that are switched on, with their addresses. -/
def servers (manager : Manager) : List (Server × String) :=
  let probes := manager.options.healthProbeBindAddress.map fun address => (Server.probes, address)
  let metrics := manager.options.metricsBindAddress.map fun address => (Server.metrics, address)
  probes.toList ++ metrics.toList

/-- The watchers of all controllers. -/
def watchers (manager : Manager) : List Watcher :=
  manager.controllers.flatMap fun controller => controller.watchers manager.options.cache

/-- The number of tasks that run once the manager is started. -/
def taskCount (manager : Manager) : Nat :=
  manager.servers.length + manager.watchers.length

end Manager

end ChartOperator
