import ChartOperator.Manager.Watcher

/-!
# Acts

What the operator does that can be seen from outside, and computations that act and may fail.  A
failure ends a computation, and what was done before it stays done.
-/

namespace ChartOperator

/-- Something that can be seen from outside. -/
inductive Act where
  | log (event : Event)
  /-- The configuration of the cluster client is looked for. -/
  | inferClient
  | listen (server : Server) (address : String)
  | watch (watcher : Watcher)

/-- A computation that acts and may fail. -/
structure Attempt (ε α : Type) where
  /-- What is done, in order. -/
  acts : List Act := []
  result : Except ε α

namespace Attempt

variable {ε δ α β : Type}

/-- Goes on with a result, unless there is none. -/
def andThen (first : Attempt ε α) (next : α → Attempt ε β) : Attempt ε β :=
  match first.result with
  | .ok a => ⟨first.acts ++ (next a).acts, (next a).result⟩
  | .error e => ⟨first.acts, .error e⟩

instance : Monad (Attempt ε) where
  pure a := ⟨[], .ok a⟩
  bind := andThen

/-- A result that takes no act. -/
def ofExcept (result : Except ε α) : Attempt ε α := ⟨[], result⟩

/-- A single act. -/
def act (act : Act) : Attempt ε Unit := ⟨[act], .ok ()⟩

/-- Logs an event. -/
def log (event : Event) : Attempt ε Unit := act (.log event)

/-- Logs some events. -/
def logAll (events : List Event) : Attempt ε Unit := ⟨events.map .log, .ok ()⟩

/-- The same acts with another form of failure. -/
def mapError (f : ε → δ) (attempt : Attempt ε α) : Attempt δ α :=
  ⟨attempt.acts, attempt.result.mapError f⟩

/-- The events that are logged. -/
def events (attempt : Attempt ε α) : List Event :=
  attempt.acts.filterMap fun
    | .log event => some event
    | _ => none

/-- The watchers that are started. -/
def watchers (attempt : Attempt ε α) : List Watcher :=
  attempt.acts.filterMap fun
    | .watch watcher => some watcher
    | _ => none

theorem bind_of_ok {first : Attempt ε α} {next : α → Attempt ε β} {a : α}
    (h : first.result = .ok a) :
    first >>= next = ⟨first.acts ++ (next a).acts, (next a).result⟩ := by
  change andThen first next = _
  simp [andThen, h]

theorem bind_of_error {first : Attempt ε α} {next : α → Attempt ε β} {e : ε}
    (h : first.result = .error e) : first >>= next = ⟨first.acts, .error e⟩ := by
  change andThen first next = _
  simp [andThen, h]

end Attempt

end ChartOperator
