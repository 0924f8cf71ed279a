import ChartOperator.Build
import ChartOperator.Config.Resolution
import ChartOperator.Log.Filter
import ChartOperator.Resource.Gvk
import ChartOperator.Scope
import ChartOperator.Serving.Listener

/-!
# Log events

Everything that the operator logs.  An event has a level, a message, fields with values, and the
component it comes from.  Filters address a component by its target.
-/

namespace ChartOperator

/-- The value of a field. -/
inductive FieldValue where
  /-- A text that is quoted in plain logs. -/
  | quoted (text : String)
  /-- A text that stands for itself. -/
  | shown (text : String)
  | number (n : Nat)
  deriving DecidableEq

/-- The text of a value. -/
def FieldValue.render : FieldValue → String
  | .quoted text | .shown text => text
  | .number n => toString n

/-- The parts of the operator that log. -/
inductive Component where
  | program
  | lifecycle
  | binder
  | manager
  | server
  | watcher
  | reconciler
  | shutdown
  deriving DecidableEq

/-- The text by which filters address a component. -/
def Component.target : Component → String
  | .program => "helm_operator"
  | .lifecycle => "helm_operator::lifecycle"
  | .binder => "helm_operator::binder"
  | .manager => "helm_operator::manager"
  | .server => "helm_operator::server"
  | .watcher => "helm_operator::watcher"
  | .reconciler => "helm_operator::reconciler"
  | .shutdown => "helm_operator::shutdown"

/-- The signals that end the operator. -/
inductive Signal where
  | terminate
  | interrupt
  deriving DecidableEq

/-- The name of a signal. -/
def Signal.name : Signal → String
  | .terminate => "SIGTERM"
  | .interrupt => "SIGINT"

/-- A watch that is bound to a controller. -/
structure ConfiguredWatch where
  gvk : Gvk
  chartPath : Path
  /-- The name of the chart. -/
  chart : String
  maxConcurrentReconciles : Nat
  reconcilePeriod : Duration
  deriving DecidableEq

/-- The release that a reconcile is about. -/
structure ReleaseKey where
  kind : String
  releaseNamespace : String
  release : String
  deriving DecidableEq

/-- The name of the scope of a watcher, where `none` stands for the whole cluster. -/
def watcherScope (scope : Option String) : String := scope.getD "all namespaces"

/-- An event. -/
inductive Event where
  | version
  | notice (notice : Notice)
  | watching (scope : Scope)
  | leaderElectionRequested (election : LeaderElection)
  | watchesLoaded (count : Nat) (path : Path)
  | watchConfigured (watch : ConfiguredWatch)
  | operatorStarting (controllers : Nat)
  | managerStarting (controllers tasks : Nat)
  | serving (server : Server) (address : String)
  | watcherStarting (gvk : Gvk) (scope : Option String)
  | watcherStopped (gvk : Gvk) (scope : Option String)
  | signalReceived (signal : Signal)
  | managerStopping
  /-- A task fails although it was asked to stop. -/
  | failedWhileStopping (explanation : String)
  /-- A task breaks down after it was asked to stop. -/
  | crashedWhileStopping (explanation : String)
  | managerStopped
  | uninstallRequested (key : ReleaseKey)
  | reconciling (key : ReleaseKey) (chart chartVersion : String)
  | reconcileFailed (kind name explanation : String)
  /-- The operator gives up. -/
  | failed (explanation : String)
  deriving DecidableEq

namespace Event

/-- The level of an event. -/
def level : Event → Level
  | failed _ => .error
  | notice _ | failedWhileStopping _ | crashedWhileStopping _ | reconcileFailed _ _ _ => .warn
  | reconciling _ _ _ => .debug
  | _ => .info

/-- The component from which an event comes. -/
def component : Event → Component
  | failed _ => .program
  | version | notice _ | watching _ | watchesLoaded _ _ | operatorStarting _ | managerStopped =>
      .lifecycle
  | watchConfigured _ => .binder
  | leaderElectionRequested _ | managerStarting _ _ | managerStopping | failedWhileStopping _
  | crashedWhileStopping _ => .manager
  | serving _ _ => .server
  | watcherStarting _ _ | watcherStopped _ _ => .watcher
  | uninstallRequested _ | reconciling _ _ _ | reconcileFailed _ _ _ => .reconciler
  | signalReceived _ => .shutdown

/-- The text of an event. -/
def message : Event → String
  | version => "Version"
  | notice n => n.message
  | watching .all => "Watching all namespaces"
  | watching (.single _) => "Watching single namespace"
  | watching (.several _) => "Watching namespaces"
  | leaderElectionRequested _ => "Leader election requested"
  | watchesLoaded count path => s!"Loaded {count} watches from {path.display}"
  | watchConfigured _ => "configured watch"
  | operatorStarting _ => "Starting the operator"
  | managerStarting _ _ => "Starting manager"
  | serving server address => s!"Serving {server.name} on {address}"
  | watcherStarting gvk scope => s!"Starting {gvk.label} watcher ({watcherScope scope})"
  | watcherStopped gvk scope => s!"Stopped {gvk.label} watcher ({watcherScope scope})"
  | signalReceived signal => s!"Received {signal.name}"
  | managerStopping => "Stopping manager"
  | failedWhileStopping explanation => s!"Error while stopping: {explanation}"
  | crashedWhileStopping explanation => s!"Task failed while stopping: {explanation}"
  | managerStopped => "Manager stopped"
  | uninstallRequested _ => "Release marked for uninstall"
  | reconciling _ _ _ => "Reconciling release"
  | reconcileFailed _ _ explanation => s!"Reconcile failed: {explanation}"
  | failed explanation => explanation

/-- The fields about a release. -/
def releaseFields (key : ReleaseKey) : List (String × FieldValue) :=
  [("kind", .shown key.kind), ("namespace", .quoted key.releaseNamespace),
   ("release", .quoted key.release)]

/-- The fields about a configured watch. -/
def watchFields (watch : ConfiguredWatch) : List (String × FieldValue) :=
  [("gvk", .shown watch.gvk.label), ("chart_path", .shown watch.chartPath.display),
   ("chart", .shown watch.chart),
   ("max_concurrent_reconciles", .number watch.maxConcurrentReconciles),
   ("reconcile_period", .shown watch.reconcilePeriod.render)]

/-- The fields of an event, besides its message. -/
def fields : Event → List (String × FieldValue)
  | version =>
      [("version", .quoted Build.version), ("commit", .quoted Build.commit),
       ("os", .quoted Build.system), ("arch", .quoted Build.architecture)]
  | watching (.single name) => [("namespace", .shown name)]
  | watching (.several names) => [("namespaces", .shown (Scope.several names).render)]
  | leaderElectionRequested election =>
      [("id", .quoted (election.id.getD "")),
       ("namespace", .quoted (election.lockNamespace.getD ""))]
  | watchConfigured watch => watchFields watch
  | operatorStarting controllers => [("controllers", .number controllers)]
  | managerStarting controllers tasks =>
      [("controllers", .number controllers), ("tasks", .number tasks)]
  | uninstallRequested key => releaseFields key
  | reconciling key chart chartVersion =>
      releaseFields key ++ [("chart", .quoted chart), ("chart_version", .quoted chartVersion)]
  | reconcileFailed kind name _ => [("kind", .shown kind), ("name", .quoted name)]
  | _ => []

/-- The name of the span in which the operator runs. -/
def runSpan : String := "helm-operator"

/-- The span in which an event happens.  Tasks run in none, and the operator gives up outside its
span. -/
def span : Event → Option String
  | failed _ | serving _ _ | watcherStarting _ _ | watcherStopped _ _ | uninstallRequested _
  | reconciling _ _ _ | reconcileFailed _ _ _ => none
  | _ => some runSpan

/-- What filters look at. -/
def occurrence (event : Event) : Occurrence where
  level := event.level
  target := event.component.target
  fields := "message" :: event.fields.map (·.1)
  span := event.span.map fun name => (name, Component.lifecycle.target)

end Event

end ChartOperator
