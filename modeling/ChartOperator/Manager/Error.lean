import ChartOperator.Cluster
import ChartOperator.Serving.BindAddress
import ChartOperator.Serving.Health
import ChartOperator.Serving.Listener

/-!
# Errors of the manager

Why the manager refuses something or stops.
-/

namespace ChartOperator

/-- The causes for which the manager refuses something or stops. -/
inductive ManagerError where
  | discovery (gvk : Gvk) (cause : ClientError)
  | duplicateController (gvk : Gvk)
  | duplicateCheck (cause : DuplicateCheck)
  | bindAddress (cause : AddressError)
  | listen (address : String) (fault : ListenFault)
  /-- A server breaks down. -/
  | serve (server : Server) (explanation : String)
  /-- A controller ends by itself. -/
  | controllerExited (gvk : Gvk)
  /-- A task ends for another reason. -/
  | task (explanation : String)
  deriving DecidableEq

/-- The wording of a manager error. -/
def ManagerError.message : ManagerError → String
  | .discovery gvk cause => s!"unable to discover {gvk.label}: {cause.explanation}"
  | .duplicateController gvk => s!"a controller for {gvk.label} is already registered"
  | .duplicateCheck cause => s!"health check {cause.name} is already registered"
  | .bindAddress cause => cause.message
  | .listen address fault => s!"unable to bind {address}: {fault.reason}"
  | .serve server explanation => s!"{server.name} server failed: {explanation}"
  | .controllerExited gvk => s!"controller for {gvk.label} stopped unexpectedly"
  | .task explanation => s!"manager task failed: {explanation}"

end ChartOperator
