import ChartOperator.Chart.Basic
import ChartOperator.Duration.Basic
import ChartOperator.Resource.Gvk
import ChartOperator.Resource.LabelSelector

/-!
# Reconcilers

A reconciler pairs a watched kind with the chart that is installed for its resources.
-/

namespace ChartOperator

/-- What happens after a reconcile. -/
inductive Action where
  /-- The resource rests until it changes. -/
  | awaitChange
  /-- The resource is reconciled again after some time. -/
  | requeue (delay : Duration)
  deriving DecidableEq

/-- A reconciler. -/
structure Reconciler where
  chart : Chart
  gvk : Gvk
  overrideValues : StringMap
  selector : LabelSelector
  /-- The text form of the selector; none if it restricts nothing. -/
  labelSelector : Option String
  watchDependentResources : Bool
  maxConcurrentReconciles : Nat
  reconcilePeriod : Duration
  installAnnotations : List String
  upgradeAnnotations : List String
  uninstallAnnotations : List String

/-- What happens after a reconcile that succeeds: with a period of zero only changes count. -/
def Reconciler.requeueAction (r : Reconciler) : Action :=
  if r.reconcilePeriod = Duration.zero then .awaitChange else .requeue r.reconcilePeriod

/-! The annotations by which a resource changes how its release is handled. -/
namespace LifecycleAnnotations

/-- The part that all names have in common. -/
def domain : String := "helm.sdk.operatorframework.io/"

/-- The annotations for the installation. -/
def install : List String := [domain ++ "install-disable-hooks"]

/-- The annotations for an upgrade. -/
def upgrade : List String := [domain ++ "upgrade-force", domain ++ "upgrade-disable-hooks"]

/-- The annotations for the removal. -/
def uninstall : List String := [domain ++ "uninstall-disable-hooks"]

end LifecycleAnnotations

end ChartOperator
