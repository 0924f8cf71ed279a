import ChartOperator.Manager.RunLoop
import ChartOperator.Serving.Response

/-!
# Starting the manager

The manager opens the listeners of its servers, the one for probes first, then starts a watcher for
each controller and namespace, and runs until its end.  If a listener cannot be opened, no watcher
is started.
-/

namespace ChartOperator

/-- Makes a manager. -/
def Manager.create {ε : Type} (options : ManagerOptions) : Attempt ε Manager :=
  ⟨options.events.map .log, .ok { options := options }⟩

/-- Opens the listener of a server after those on some addresses. -/
def openListener (host : Host) (opened : List String) (server : Server) (address : String) :
    Attempt ManagerError Unit :=
  match host.listen opened address with
  | .ok () => .act (.listen server address)
  | .error fault => .ofExcept (.error (.listen address fault))

/-- Opens listeners in order, after those on some addresses. -/
def openListeners (host : Host) (opened : List String) :
    List (Server × String) → Attempt ManagerError Unit
  | [] => pure ()
  | (server, address) :: rest => do
      openListener host opened server address
      openListeners host (opened ++ [address]) rest

/-- Starts some watchers. -/
def startWatchers {ε : Type} (watchers : List Watcher) : Attempt ε Unit :=
  ⟨watchers.map .watch, .ok ()⟩

namespace Manager

/-- What the servers of a manager show, given what has been counted. -/
def exhibits (manager : Manager) (metrics : Metrics) : Exhibits where
  liveness := manager.liveness
  readiness := manager.readiness
  metrics := metrics

/-- What a manager logs once all of its tasks are started. -/
def startEvent (manager : Manager) : Event :=
  .managerStarting manager.controllers.length manager.taskCount

/-- Starts a manager and runs it until its end. -/
def start (manager : Manager) (host : Host) (course : Course) : Attempt ManagerError Unit := do
  openListeners host [] manager.servers
  startWatchers manager.watchers
  .log manager.startEvent
  .logAll course.events
  .ofExcept course.ending.result

end Manager

end ChartOperator
