import ChartOperator.Proofs.Calls
import ChartOperator.Proofs.Scope
import ChartOperator.Proofs.Starting
import Mathlib.Algebra.Ring.Nat

/-!
# The controllers of a manager and their watchers

Whatever is to be registered with a manager, no two of its controllers are for the same kind, and
they are those of the calls that were accepted, in order; a refused call changes nothing.  When the
manager starts, each controller gets the watchers that its kind needs: exactly one for each
namespace of the scope, or one for the whole cluster.
-/

namespace ChartOperator

/-! ## Registrations -/

/-- A call that is to register a reconciler.  The cluster may answer differently from call to
call. -/
structure RegisterCall where
  cluster : Cluster
  reconciler : Reconciler

namespace RegisterCall

/-- What comes out of a call, and the manager after it. -/
def make (call : RegisterCall) (manager : Manager) : Except ManagerError Unit × Manager :=
  (Manager.enroll call.cluster call.reconciler).apply manager

/-- What comes out of some calls, one after the other, and the manager after them. -/
def makeAll (manager : Manager) (calls : List RegisterCall) :
    List (Except ManagerError Unit) × Manager :=
  makeCalls make manager calls

theorem makeAll_cons (manager : Manager) (call : RegisterCall) (rest : List RegisterCall) :
    makeAll manager (call :: rest) =
      ((call.make manager).1 :: (makeAll (call.make manager).2 rest).1,
        (makeAll (call.make manager).2 rest).2) := rfl

/-- Whether a controller is the one of an accepted call: it is for the reconciler of the call, and
for the kind as the cluster knows it. -/
structure IsAnsweredBy (call : RegisterCall) (controller : Controller) : Prop where
  reconciler : controller.reconciler = call.reconciler
  type : call.cluster.discover call.reconciler.gvk = .ok controller.type

/-- Why a call is refused. -/
inductive IsRefused (call : RegisterCall) (manager : Manager) : ManagerError → Prop where
  /-- The cluster does not know the kind. -/
  | discovery (cause : ClientError)
      (unknown : call.cluster.discover call.reconciler.gvk = .error cause) :
      IsRefused call manager (.discovery call.reconciler.gvk cause)
  /-- There is a controller for the kind already. -/
  | duplicate (known : call.reconciler.gvk ∈ manager.kinds) :
      IsRefused call manager (.duplicateController call.reconciler.gvk)

variable {call : RegisterCall} {calls : List RegisterCall} {manager : Manager}

/-- A call adds a controller for a new kind, or it is refused and changes nothing. -/
theorem make_cases (call : RegisterCall) (manager : Manager) :
    (∃ type, call.cluster.discover call.reconciler.gvk = .ok type ∧
      call.reconciler.gvk ∉ manager.kinds ∧
        call.make manager = (.ok (),
          { manager with controllers := manager.controllers ++ [⟨call.reconciler, type⟩] })) ∨
      ∃ e, IsRefused call manager e ∧ call.make manager = (.error e, manager) := by
  rw [make, Manager.apply_enroll]
  cases discovered : call.cluster.discover call.reconciler.gvk with
  | error cause => exact Or.inr ⟨_, IsRefused.discovery cause discovered, rfl⟩
  | ok type =>
      by_cases known : call.reconciler.gvk ∈ manager.kinds
      · exact Or.inr ⟨_, IsRefused.duplicate known, if_pos known⟩
      · exact Or.inl ⟨type, rfl, known, if_neg known⟩

/-- The calls add controllers to a manager: those of the accepted calls, in order, and for different
kinds.  By induction on the calls, each of which keeps the kinds different. -/
theorem exists_added_of_makeAll (distinct : manager.kinds.Nodup) (calls : List RegisterCall) :
    ∃ added, (makeAll manager calls).2 =
        { manager with controllers := manager.controllers ++ added } ∧
      List.Forall₂ IsAnsweredBy (acceptedCalls calls (makeAll manager calls).1) added ∧
        (makeAll manager calls).2.kinds.Nodup := by
  induction calls generalizing manager with
  | nil => exact ⟨[], by simp [makeAll, makeCalls], List.Forall₂.nil, distinct⟩
  | cons call rest ih =>
      rcases make_cases call manager with ⟨type, discovered, new, made⟩ | ⟨e, -, made⟩
      · have kinds : Manager.kinds { manager with
            controllers := manager.controllers ++ [⟨call.reconciler, type⟩] } =
              manager.kinds ++ [call.reconciler.gvk] := by
          simp [Manager.kinds, Controller.gvk]
        have distinctNext := distinct.concat new
        rw [List.concat_eq_append, ← kinds] at distinctNext
        obtain ⟨added, last, answered, distinctLast⟩ := ih distinctNext
        refine ⟨⟨call.reconciler, type⟩ :: added, ?_, ?_, ?_⟩
        · simp [makeAll_cons, made, last]
        · have first : IsAnsweredBy call ⟨call.reconciler, type⟩ := ⟨rfl, discovered⟩
          simpa [makeAll_cons, made] using ⟨first, answered⟩
        · simpa [makeAll_cons, made] using distinctLast
      · obtain ⟨added, last, answered, distinctLast⟩ := ih distinct
        refine ⟨added, ?_, ?_, ?_⟩
        · simp [makeAll_cons, made, last]
        · simpa [makeAll_cons, made] using answered
        · simpa [makeAll_cons, made] using distinctLast

/-- A refused call leaves the manager as it was. -/
theorem unchanged_of_refused {before after : List RegisterCall} {e : ManagerError}
    (refused : (makeAll manager (before ++ call :: after)).1[before.length]? = some (.error e)) :
    (makeAll manager (before ++ [call])).2 = (makeAll manager before).2 ∧
      IsRefused call (makeAll manager before).2 e := by
  unfold makeAll at refused ⊢
  rw [outcome_middle, Option.some.injEq] at refused
  rw [makeCalls_append]
  rcases make_cases call (makeCalls make manager before).2 with
    ⟨type, -, -, made⟩ | ⟨e', isRefused, made⟩
  · rw [made] at refused
    cases refused
  · rw [made] at refused
    obtain rfl := Except.error.inj refused
    exact ⟨by simp [makeCalls, made], isRefused⟩

end RegisterCall

/-! ## Watchers -/

/-- The watchers of a controller among those that are started. -/
def Attempt.watchersOf {ε α : Type} (attempt : Attempt ε α) (controller : Controller) :
    List Watcher :=
  attempt.watchers.filter fun watcher => watcher.controller.gvk = controller.gvk

section

variable {host : Host} {manager : Manager} {controllers : List Controller}
  {controller : Controller} {cache : CacheStrategy}

theorem watchers_start (opens : host.OpensAll manager.servers) (course : Course) :
    (manager.start host course).watchers = manager.watchers := by
  rw [Manager.start_of_opensAll opens]
  simp [Attempt.watchers, Attempt.after, launch, List.filterMap_map]

theorem events_start (opens : host.OpensAll manager.servers) (course : Course) :
    (manager.start host course).events = manager.startEvent :: course.events := by
  rw [Manager.start_of_opensAll opens]
  simp [Attempt.events, Attempt.after, launch, List.filterMap_map, Manager.startEvent]

theorem filter_watchers_of_ne {other : Controller} (different : other.gvk ≠ controller.gvk)
    (cache : CacheStrategy) :
    (other.watchers cache).filter (fun watcher => watcher.controller.gvk = controller.gvk) =
      [] := by
  simp [Controller.watchers, different]

theorem filter_watchers_self (controller : Controller) (cache : CacheStrategy) :
    (controller.watchers cache).filter (fun watcher => watcher.controller.gvk = controller.gvk) =
      controller.watchers cache := by
  simp [Controller.watchers]

/-- Controllers for different kinds have different watchers. -/
theorem filter_flatMap_watchers (distinct : (controllers.map Controller.gvk).Nodup)
    (mem : controller ∈ controllers) (cache : CacheStrategy) :
    (controllers.flatMap (·.watchers cache)).filter
        (fun watcher => watcher.controller.gvk = controller.gvk) =
      controller.watchers cache := by
  induction controllers with
  | nil => cases mem
  | cons first rest ih =>
      rw [List.map_cons, List.nodup_cons] at distinct
      obtain ⟨new, distinctRest⟩ := distinct
      rw [List.flatMap_cons, List.filter_append]
      rcases List.mem_cons.mp mem with rfl | memRest
      · -- No other controller is for the kind, so all watchers for it are in the first block.
        have noOthers : (rest.flatMap (·.watchers cache)).filter
            (fun watcher => watcher.controller.gvk = controller.gvk) = [] := by
          rw [List.filter_flatMap, List.flatMap_eq_nil_iff]
          intro other otherMem
          apply filter_watchers_of_ne
          intro same
          exact new (same ▸ List.mem_map_of_mem otherMem)
        rw [filter_watchers_self, noOthers, List.append_nil]
      · have different : first.gvk ≠ controller.gvk := by
          intro same
          exact new (same ▸ List.mem_map_of_mem memRest)
        rw [filter_watchers_of_ne different, ih distinctRest memRest, List.nil_append]

end

/-- What holds when a manager for a scope starts. -/
structure CoversScope (manager : Manager) (scope : Scope) (host : Host) (course : Course) :
    Prop where
  /-- A controller gets one watcher for each element of the list of its watches. -/
  each : ∀ controller ∈ manager.controllers,
    (manager.start host course).watchersOf controller =
      (manager.options.cache.watchNamespaces controller.type.namespaced).map
        fun watched => ⟨controller, watched⟩
  /-- A controller for a kind without namespaces gets one watcher for the whole cluster. -/
  clusterWide : ∀ controller ∈ manager.controllers, controller.type.namespaced = false →
    (manager.start host course).watchersOf controller = [⟨controller, none⟩]
  /-- Any other controller gets one watcher, if the manager has one watch. -/
  single : ∀ controller ∈ manager.controllers, controller.type.namespaced = true →
    ∀ watched, manager.options.cache = .scoped watched →
      (manager.start host course).watchersOf controller = [⟨controller, watched⟩]
  /-- It gets one watcher for each of several namespaces, none of which is named twice. -/
  several : ∀ controller ∈ manager.controllers, controller.type.namespaced = true →
    ∀ names, manager.options.cache = .multi names → names.Nodup ∧
      (manager.start host course).watchersOf controller =
        names.map fun name => ⟨controller, some name⟩
  /-- All watchers are those of controllers. -/
  registered : ∀ watcher ∈ (manager.start host course).watchers,
    watcher.controller ∈ manager.controllers
  /-- No watcher is missing, and no namespace is covered twice. -/
  covered : ∀ controller ∈ manager.controllers, ∀ name,
    (((manager.start host course).watchersOf controller).filter
      (coversNamespace ·.scope name)).length =
        if controller.type.namespaced = false ∨ scope.Includes name then 1 else 0
  /-- The number of tasks that is logged is that of the servers and of all these watchers. -/
  logged : (manager.start host course).events =
    .managerStarting manager.controllers.length
      (manager.servers.length + (manager.controllers.map fun controller =>
        (manager.options.cache.watchNamespaces controller.type.namespaced).length).sum) ::
          course.events

theorem coversScope_of_opensAll {manager : Manager} {scope : Scope} {host : Host}
    (distinct : manager.kinds.Nodup) (names : scope.names.Nodup)
    (cache : manager.options.cache = scope.cacheStrategy) (opens : host.OpensAll manager.servers)
    (course : Course) : CoversScope manager scope host course := by
  have each : ∀ controller ∈ manager.controllers,
      (manager.start host course).watchersOf controller =
        (manager.options.cache.watchNamespaces controller.type.namespaced).map
          fun watched => ⟨controller, watched⟩ := by
    intro controller mem
    rw [Attempt.watchersOf, watchers_start opens]
    exact filter_flatMap_watchers distinct mem _
  constructor
  case each => exact each
  case clusterWide =>
    intro controller mem clusterWide
    rw [each controller mem, clusterWide]
    rfl
  case single =>
    intro controller mem namespaced watched layout
    rw [each controller mem, namespaced, layout]
    rfl
  case several =>
    intro controller mem namespaced watched layout
    constructor
    · rw [cache] at layout
      cases scope with
      | all | single => cases layout
      | several all =>
          cases layout
          exact names
    · rw [each controller mem, namespaced, layout]
      simp [CacheStrategy.watchNamespaces]
  case registered =>
    intro watcher mem
    rw [watchers_start opens] at mem
    obtain ⟨controller, controllerMem, ofController⟩ := List.mem_flatMap.mp mem
    obtain ⟨watched, -, rfl⟩ := List.mem_map.mp ofController
    exact controllerMem
  case covered =>
    intro controller mem name
    rw [each controller mem, List.filter_map, List.length_map, cache]
    exact length_filter_coversNamespace names controller.type.namespaced name
  case logged =>
    rw [events_start opens, Manager.startEvent, Manager.taskCount, Manager.watchers,
      List.length_flatMap]
    simp [Controller.watchers]

/-- What holds of a manager after some calls. -/
structure IsRegistry (manager : Manager) (calls : List RegisterCall) : Prop where
  distinct : (RegisterCall.makeAll manager calls).2.kinds.Nodup
  /-- The controllers are those of the accepted calls, in order. -/
  accepted : List.Forall₂ RegisterCall.IsAnsweredBy
    (acceptedCalls calls (RegisterCall.makeAll manager calls).1)
    (RegisterCall.makeAll manager calls).2.controllers
  /-- Nothing besides the controllers changes. -/
  others : (RegisterCall.makeAll manager calls).2 =
    { manager with controllers := (RegisterCall.makeAll manager calls).2.controllers }
  /-- A refused call leaves the manager as it was. -/
  refused : ∀ before call after e, calls = before ++ call :: after →
    (RegisterCall.makeAll manager calls).1[before.length]? = some (.error e) →
      (RegisterCall.makeAll manager (before ++ [call])).2 =
          (RegisterCall.makeAll manager before).2 ∧
        call.IsRefused (RegisterCall.makeAll manager before).2 e

theorem isRegistry_of_fresh {manager : Manager} (fresh : manager.controllers = [])
    (calls : List RegisterCall) : IsRegistry manager calls := by
  have noKinds : manager.kinds.Nodup := by simp [Manager.kinds, fresh]
  obtain ⟨added, last, answered, distinct⟩ := RegisterCall.exists_added_of_makeAll noKinds calls
  rw [fresh, List.nil_append] at last
  constructor
  case distinct => exact distinct
  case accepted =>
    rw [last]
    exact answered
  case others =>
    rw [last]
  case refused =>
    rintro before call after e rfl refused
    exact RegisterCall.unchanged_of_refused refused

/-- Whatever is to be registered with a fresh manager, its controllers are for different kinds and
those of the accepted calls, and refused calls change nothing.  When it then starts, its watchers
cover exactly the decided scope, unless a listener cannot be opened; in this case it fails and
starts no watcher. -/
theorem registry_coversScope (manager : Manager) (fresh : manager.controllers = [])
    (signal configured : Option String)
    (cache : manager.options.cache = (Scope.decide signal configured).cacheStrategy)
    (calls : List RegisterCall) :
    IsRegistry manager calls ∧ ∀ host course,
      (host.OpensAll manager.servers →
        CoversScope (RegisterCall.makeAll manager calls).2 (Scope.decide signal configured) host
          course) ∧
      (¬ host.OpensAll manager.servers →
        ((RegisterCall.makeAll manager calls).2.start host course).watchers = [] ∧
          ∃ e, ((RegisterCall.makeAll manager calls).2.start host course).result = .error e) := by
  have registry := isRegistry_of_fresh fresh calls
  have options : (RegisterCall.makeAll manager calls).2.options = manager.options := by
    rw [registry.others]
  have servers : (RegisterCall.makeAll manager calls).2.servers = manager.servers := by
    rw [Manager.servers, options, Manager.servers]
  refine ⟨registry, fun host course => ⟨?_, ?_⟩⟩
  · intro opens
    apply coversScope_of_opensAll registry.distinct (Scope.nodup_names_decide signal configured)
    · rw [options, cache]
    · rw [servers]
      exact opens
  · intro closed
    rw [← servers] at closed
    obtain ⟨opened, server, address, fault, rest, split, opens, refused⟩ :=
      exists_refused_of_not_opensAll closed
    rw [Manager.start_of_refused split opens refused]
    constructor
    · simp [Attempt.watchers]
    · exact ⟨_, rfl⟩

/-- A manager for two namespaces, one of which the signal names twice. -/
def exampleEmptyManager : Manager where
  options := {
    cache := (Scope.decide (some "b, a,b") none).cacheStrategy
    healthProbeBindAddress := some "0.0.0.0:8081" }

/-- Calls to a cluster with two kinds, of which pages belong to no namespace: a second controller
for sites, one for an unknown kind and one for which the cluster is not reached are refused. -/
def exampleCalls : List RegisterCall :=
  let discover (gvk : Gvk) : Except ClientError ResourceType :=
    if gvk.kind = "Site" then .ok ⟨gvk, "sites", true⟩
    else if gvk.kind = "Page" then .ok ⟨gvk, "pages", false⟩
    else .error ⟨"unknown kind"⟩
  let call (kind : String) : RegisterCall := ⟨⟨discover, fun _ => .ok []⟩, exampleReconciler kind⟩
  let lost : RegisterCall := ⟨.unreachable ⟨"connection refused"⟩, exampleReconciler "Page"⟩
  [call "Site", call "Site", call "Font", lost, call "Page"]

/-- Two of the calls of the example are accepted, and the manager covers its scope with three
watchers. -/
theorem registry_coversScope_exampleCalls :
    (RegisterCall.makeAll exampleEmptyManager exampleCalls).1.map (·.isOk) =
        [true, false, false, false, true] ∧
      IsRegistry exampleEmptyManager exampleCalls ∧
        CoversScope (RegisterCall.makeAll exampleEmptyManager exampleCalls).2
          (Scope.decide (some "b, a,b") none) .permissive (.ofSignal .terminate) ∧
          ((RegisterCall.makeAll exampleEmptyManager exampleCalls).2.start .permissive
            (.ofSignal .terminate)).watchers.map (·.scope) = [some "a", some "b", none] := by
  have opens : Host.permissive.OpensAll exampleEmptyManager.servers := ⟨rfl, trivial⟩
  obtain ⟨registry, covers⟩ :=
    registry_coversScope exampleEmptyManager rfl (some "b, a,b") none rfl exampleCalls
  refine ⟨?_, registry, (covers .permissive (.ofSignal .terminate)).1 opens, ?_⟩
  · decide +kernel
  · decide +kernel

end ChartOperator
