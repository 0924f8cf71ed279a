import ChartOperator.Manager.Start

/-!
# What a manager does from its start on

A manager whose listeners can all be opened opens them, starts its watchers, logs how many tasks it
has, and comes to the end of its course.  Otherwise it fails at the first listener that cannot be
opened, and starts no watcher.
-/

namespace ChartOperator

namespace Attempt

variable {ε α β : Type}

/-- A computation after some acts. -/
def after (acts : List Act) (attempt : Attempt ε α) : Attempt ε α :=
  ⟨acts ++ attempt.acts, attempt.result⟩

@[simp]
theorem after_nil (attempt : Attempt ε α) : attempt.after [] = attempt := rfl

@[simp]
theorem after_append (first second : List Act) (attempt : Attempt ε α) :
    attempt.after (first ++ second) = (attempt.after second).after first := by
  simp [after]

theorem after_bind (acts : List Act) (attempt : Attempt ε α) (next : α → Attempt ε β) :
    attempt.after acts >>= next = (attempt >>= next).after acts := by
  cases outcome : attempt.result with
  | error e => simp [after, bind_of_error, outcome]
  | ok a => simp [after, bind_of_ok (a := a), outcome]

end Attempt

/-! ## Listeners -/

/-- The addresses of some servers. -/
def addressesOf (servers : List (Server × String)) : List String :=
  servers.map fun named => named.2

/-- Whether a host opens the listeners of some servers, after those on some addresses and one after
the other. -/
def Host.OpensAfter (host : Host) (before : List String) : List (Server × String) → Prop
  | [] => True
  | named :: rest =>
      host.listen before named.2 = .ok () ∧ host.OpensAfter (before ++ [named.2]) rest

/-- Whether a host opens the listeners of some servers, one after the other. -/
def Host.OpensAll (host : Host) (servers : List (Server × String)) : Prop :=
  host.OpensAfter [] servers

variable {host : Host} {before : List String}

theorem openListeners_nil_bind {α : Type} (next : Unit → Attempt ManagerError α) :
    openListeners host before [] >>= next = next () :=
  Attempt.bind_of_ok rfl

theorem openListeners_cons_of_ok {server : Server} {address : String}
    (opened : host.listen before address = .ok ()) (rest : List (Server × String)) :
    openListeners host before ((server, address) :: rest) =
      (openListeners host (before ++ [address]) rest).after [.listen server address] := by
  have first : openListener host before server address = .act (.listen server address) := by
    rw [openListener, opened]
  rw [openListeners, first]
  exact Attempt.bind_of_ok rfl

theorem openListeners_cons_of_error {server : Server} {address : String} {fault : ListenFault}
    (refused : host.listen before address = .error fault) (rest : List (Server × String)) :
    openListeners host before ((server, address) :: rest) =
      ⟨[], .error (.listen address fault)⟩ := by
  have first : openListener host before server address =
      .ofExcept (.error (.listen address fault)) := by
    rw [openListener, refused]
  rw [openListeners, first]
  exact Attempt.bind_of_error rfl

/-- If not all listeners can be opened, there is a first one that cannot be. -/
theorem exists_refused_of_not_opensAfter {servers : List (Server × String)}
    (closed : ¬ host.OpensAfter before servers) :
    ∃ opened server address fault rest, servers = opened ++ (server, address) :: rest ∧
      host.OpensAfter before opened ∧
        host.listen (before ++ addressesOf opened) address = .error fault := by
  induction servers generalizing before with
  | nil => exact absurd trivial closed
  | cons named others ih =>
      obtain ⟨server, address⟩ := named
      cases outcome : host.listen before address with
      | error fault =>
          exact ⟨[], server, address, fault, others, rfl, trivial, by simpa [addressesOf]⟩
      | ok _ =>
          have othersClosed : ¬ host.OpensAfter (before ++ [address]) others := by
            intro opens
            exact closed ⟨outcome, opens⟩
          obtain ⟨opened, server', address', fault, rest, rfl, opens, refused⟩ := ih othersClosed
          refine ⟨(server, address) :: opened, server', address', fault, rest, rfl,
            ⟨outcome, opens⟩, ?_⟩
          simpa [addressesOf] using refused

theorem exists_refused_of_not_opensAll {servers : List (Server × String)}
    (closed : ¬ host.OpensAll servers) :
    ∃ opened server address fault rest, servers = opened ++ (server, address) :: rest ∧
      host.OpensAll opened ∧ host.listen (addressesOf opened) address = .error fault :=
  exists_refused_of_not_opensAfter closed

theorem openListeners_append {servers : List (Server × String)}
    (opens : host.OpensAfter before servers) (rest : List (Server × String)) :
    openListeners host before (servers ++ rest) =
      (openListeners host (before ++ addressesOf servers) rest).after
        (servers.map fun named => .listen named.1 named.2) := by
  induction servers generalizing before with
  | nil => simp [addressesOf]
  | cons named others ih =>
      obtain ⟨server, address⟩ := named
      obtain ⟨opened, opensOthers⟩ := opens
      rw [List.cons_append, openListeners_cons_of_ok opened, ih opensOthers, List.append_assoc]
      exact (Attempt.after_append [_] _ _).symm

/-! ## The whole start -/

/-- What a manager with a number of controllers and of tasks does once its listeners are open and
there are still some watchers to start. -/
def launch (controllers tasks : Nat) (watchers : List Watcher) (course : Course) :
    Attempt ManagerError Unit :=
  ⟨watchers.map .watch ++ (.managerStarting controllers tasks :: course.events).map .log,
    course.ending.result⟩

namespace Manager

variable {manager : Manager}

/-- A manager first opens its listeners. -/
theorem start_eq (course : Course) :
    manager.start host course = openListeners host [] manager.servers >>= fun _ =>
      launch manager.controllers.length manager.taskCount manager.watchers course := by
  rw [start]
  congr 1
  funext _
  simp [launch, startEvent, startWatchers, Attempt.log, Attempt.act, Attempt.logAll,
    Attempt.ofExcept, bind, Attempt.andThen]

/-- What a manager does if all of its listeners can be opened. -/
theorem start_of_opensAll (opens : host.OpensAll manager.servers) (course : Course) :
    manager.start host course =
      (launch manager.controllers.length manager.taskCount manager.watchers course).after
        (manager.servers.map fun named => .listen named.1 named.2) := by
  have opened := openListeners_append opens []
  rw [List.append_nil] at opened
  rw [start_eq, opened, Attempt.after_bind, openListeners_nil_bind]

/-- A manager fails at the first listener that cannot be opened. -/
theorem start_of_refused {opened rest : List (Server × String)} {server : Server}
    {address : String} {fault : ListenFault}
    (servers : manager.servers = opened ++ (server, address) :: rest)
    (opens : host.OpensAll opened)
    (refused : host.listen (addressesOf opened) address = .error fault) (course : Course) :
    manager.start host course =
      ⟨opened.map fun named => .listen named.1 named.2, .error (.listen address fault)⟩ := by
  rw [start_eq, servers, openListeners_append opens, List.nil_append,
    openListeners_cons_of_error refused, Attempt.after_bind, Attempt.bind_of_error rfl]
  simp [Attempt.after]

end Manager

/-- A reconciler for a kind of the core group, as it is used in examples. -/
def exampleReconciler (kind : String) : Reconciler where
  chart := { metadata := { apiVersion := "v1", name := "app", version := "1.0.0" } }
  gvk := ⟨"", "v1", kind⟩
  overrideValues := []
  selector := {}
  labelSelector := none
  watchDependentResources := true
  maxConcurrentReconciles := 1
  reconcilePeriod := Duration.zero
  installAnnotations := LifecycleAnnotations.install
  upgradeAnnotations := LifecycleAnnotations.upgrade
  uninstallAnnotations := LifecycleAnnotations.uninstall

end ChartOperator
