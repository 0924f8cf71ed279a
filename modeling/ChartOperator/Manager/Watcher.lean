import ChartOperator.Cluster
import ChartOperator.Reconciler.Pass
import ChartOperator.Text.Decimal

/-!
# Controllers and watchers

A controller is a reconciler together with what the cluster knows about its kind.  A watcher runs
the reconciles of a controller in one namespace or in the whole cluster.
-/

namespace ChartOperator

/-- A registered controller. -/
structure Controller where
  reconciler : Reconciler
  type : ResourceType

/-- A watcher; without a namespace it covers the whole cluster. -/
structure Watcher where
  controller : Controller
  scope : Option String

namespace Controller

/-- The kind of the resources of a controller. -/
def gvk (controller : Controller) : Gvk := controller.reconciler.gvk

/-- The watchers that cover the resources of a controller. -/
def watchers (controller : Controller) (cache : CacheStrategy) : List Watcher :=
  (cache.watchNamespaces controller.type.namespaced).map fun scope => ⟨controller, scope⟩

end Controller

namespace Watcher

/-- How many resources a watcher reconciles at a time.  The limit is kept in a word of 16 bits, so
larger ones count as the largest such word. -/
def concurrency (watcher : Watcher) : Nat :=
  min Text.maxWord16 watcher.controller.reconciler.maxConcurrentReconciles

/-- What a watcher logs when it starts. -/
def announcement (watcher : Watcher) : Event :=
  .watcherStarting watcher.controller.gvk watcher.scope

/-- The request with which a watcher finds the resources that are there already. -/
def request (watcher : Watcher) : ListRequest where
  path := watcher.controller.type.path watcher.scope
  labelSelector := watcher.controller.reconciler.labelSelector

/-- The events of the first reconciles, one for each resource that is there already.  If the
cluster does not list them, the watcher goes on trying. -/
def firstEvents (watcher : Watcher) (cluster : Cluster) : List Event :=
  match cluster.list watcher.request with
  | .error _ => []
  | .ok objects => objects.map fun object => (watcher.controller.reconciler.handle object {}).event

end Watcher

end ChartOperator
