import ChartOperator.Manager.Act
import ChartOperator.Manager.Basic

/-!
# The run loop of the manager

The manager opens the listeners of its servers and starts its tasks, unless a listener cannot be
opened.  Then it runs until the first of two things is taken notice of: the request to shut down, or
the end of one of its tasks.  That decides its result.  It then raises the stop flag, waits for all
remaining tasks and returns.

The loop is given as a relation between states, since tasks end and shutdown is requested at any
time.
-/

namespace ChartOperator

/-- A task of the manager. -/
inductive Task where
  | serve (server : Server) (address : String)
  | watch (watcher : Watcher)

/-- How a task comes to its end. -/
inductive TaskEnd where
  | finished (result : Except ManagerError Unit)
  /-- The task breaks down; the explanation is that of the runtime. -/
  | crashed (explanation : String)

namespace TaskEnd

/-- The failure of the manager if a task comes to its end before it is asked to. -/
def failure : TaskEnd → ManagerError
  | .finished (.ok ()) => .task "task exited before shutdown"
  | .finished (.error e) => e
  | .crashed explanation => .task explanation

/-- What is logged if a task comes to its end when it was asked to. -/
def warning? : TaskEnd → Option Event
  | .finished (.ok ()) => none
  | .finished (.error e) => some (.failedWhileStopping e.message)
  | .crashed explanation => some (.crashedWhileStopping explanation)

end TaskEnd

/-- What the manager takes notice of first. -/
inductive Ending where
  | shutdown
  | taskEnded (how : TaskEnd)

/-- The result of the manager. -/
def Ending.result : Ending → Except ManagerError Unit
  | .shutdown => .ok ()
  | .taskEnded how => .error how.failure

/-- What is logged when the manager takes notice of the first thing. -/
def Ending.events : Ending → List Event
  | .shutdown => [.managerStopping]
  | .taskEnded _ => []

/-- How far the manager is. -/
inductive Phase where
  /-- The listeners of some servers are still to be opened, and some watchers to be started. -/
  | starting (servers : List (Server × String)) (watchers : List Watcher)
  /-- A listener could not be opened. -/
  | refused (e : ManagerError)
  /-- It waits for the first thing to take notice of. -/
  | waiting
  /-- Its result is decided. -/
  | decided (result : Except ManagerError Unit)
  /-- The stop flag is raised, and it waits for the remaining tasks. -/
  | stopping (result : Except ManagerError Unit)
  | returned (result : Except ManagerError Unit)

/-- The state of the run loop. -/
structure LoopState where
  /-- The addresses on which listeners were opened. -/
  opened : List String := []
  /-- The tasks that have not come to their end. -/
  running : List Task := []
  /-- The tasks whose end was not taken notice of. -/
  ended : List (Task × TaskEnd) := []
  shutdownRequested : Bool := false
  stopRaised : Bool := false
  phase : Phase

/-- What happens in a step of the run loop. -/
inductive LoopEvent where
  | opened (server : Server) (address : String)
  | refused (address : String) (fault : ListenFault)
  | watched (watcher : Watcher)
  | started (tasks : Nat)
  | taskEnds (task : Task) (how : TaskEnd)
  | shutdownRequested
  /-- The request to shut down is taken notice of. -/
  | shutdownTaken
  /-- The end of a task is taken notice of before anything else. -/
  | taskTaken (task : Task) (how : TaskEnd)
  | stopRaised
  /-- The end of a remaining task is taken notice of. -/
  | joined (task : Task) (how : TaskEnd)
  | returned

namespace LoopEvent

/-- What is done in a step of a manager with a number of controllers. -/
def acts (controllers : Nat) : LoopEvent → List Act
  | opened server address => [.listen server address]
  | watched watcher => [.watch watcher]
  | started tasks => [.log (.managerStarting controllers tasks)]
  | shutdownTaken => Ending.shutdown.events.map .log
  | taskTaken _ how => (Ending.taskEnded how).events.map .log
  | joined _ how => how.warning?.toList.map .log
  | _ => []

end LoopEvent

/-- The steps of the run loop. -/
inductive LoopStep (host : Host) : LoopState → LoopEvent → LoopState → Prop where
  | listen {s : LoopState} {server : Server} {address : String}
      {servers : List (Server × String)} {watchers : List Watcher}
      (starting : s.phase = .starting ((server, address) :: servers) watchers)
      (opened : host.listen s.opened address = .ok ()) :
      LoopStep host s (.opened server address)
        { s with opened := s.opened ++ [address], running := s.running ++ [.serve server address],
                 phase := .starting servers watchers }
  | refuse {s : LoopState} {server : Server} {address : String} {fault : ListenFault}
      {servers : List (Server × String)} {watchers : List Watcher}
      (starting : s.phase = .starting ((server, address) :: servers) watchers)
      (refused : host.listen s.opened address = .error fault) :
      LoopStep host s (.refused address fault) { s with phase := .refused (.listen address fault) }
  | watch {s : LoopState} {watcher : Watcher} {watchers : List Watcher}
      (starting : s.phase = .starting [] (watcher :: watchers)) :
      LoopStep host s (.watched watcher)
        { s with running := s.running ++ [.watch watcher], phase := .starting [] watchers }
  | start {s : LoopState} (starting : s.phase = .starting [] []) :
      LoopStep host s (.started (s.running.length + s.ended.length)) { s with phase := .waiting }
  | taskEnds {s : LoopState} (before after : List Task) {task : Task} (how : TaskEnd)
      (running : s.running = before ++ task :: after) :
      LoopStep host s (.taskEnds task how)
        { s with running := before ++ after, ended := s.ended ++ [(task, how)] }
  | requestShutdown {s : LoopState} :
      LoopStep host s .shutdownRequested { s with shutdownRequested := true }
  | takeShutdown {s : LoopState} (waiting : s.phase = .waiting)
      (requested : s.shutdownRequested = true) :
      LoopStep host s .shutdownTaken { s with phase := .decided Ending.shutdown.result }
  | takeTask {s : LoopState} {task : Task} {how : TaskEnd} (waiting : s.phase = .waiting)
      (before after : List (Task × TaskEnd)) (ended : s.ended = before ++ (task, how) :: after) :
      LoopStep host s (.taskTaken task how)
        { s with ended := before ++ after, phase := .decided (Ending.taskEnded how).result }
  | raiseStop {s : LoopState} {result : Except ManagerError Unit}
      (decided : s.phase = .decided result) :
      LoopStep host s .stopRaised { s with stopRaised := true, phase := .stopping result }
  | join {s : LoopState} {result : Except ManagerError Unit} {task : Task} {how : TaskEnd}
      (stopping : s.phase = .stopping result) (before after : List (Task × TaskEnd))
      (ended : s.ended = before ++ (task, how) :: after) :
      LoopStep host s (.joined task how) { s with ended := before ++ after }
  | return {s : LoopState} {result : Except ManagerError Unit}
      (stopping : s.phase = .stopping result) (noneRunning : s.running = [])
      (noneEnded : s.ended = []) :
      LoopStep host s .returned { s with phase := .returned result }

/-- Several steps of the run loop. -/
inductive LoopRun (host : Host) : LoopState → List LoopEvent → LoopState → Prop where
  | nil (s : LoopState) : LoopRun host s [] s
  | snoc {s t u : LoopState} {events : List LoopEvent} {event : LoopEvent}
      (run : LoopRun host s events t) (step : LoopStep host t event u) :
      LoopRun host s (events ++ [event]) u

/-- How the run loop comes to its end. -/
structure Course where
  ending : Ending
  /-- The signal that requests the shutdown, if one does. -/
  signal : Option Signal := none
  /-- How the remaining tasks come to their ends, in the order in which the ends are taken notice
  of. -/
  remaining : List TaskEnd := []

namespace Course

/-- The course of a run loop that a signal ends. -/
def ofSignal (signal : Signal) : Course := { ending := .shutdown, signal := some signal }

/-- What is logged on the way to the end. -/
def events (course : Course) : List Event :=
  (course.signal.map Event.signalReceived).toList ++ course.ending.events ++
    course.remaining.filterMap TaskEnd.warning?

end Course

end ChartOperator
