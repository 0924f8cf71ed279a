import ChartOperator.Proofs.Controllers
import ChartOperator.Proofs.Except
import ChartOperator.Startup.Process

/-!
# The gates of a run

Before its manager starts, a run has to pass a number of gates: the plan, the client, the options of
the manager, its checks, the watch list, and the controllers.  A run that does not pass all of them
gives up with the error of the first one that is closed.  It has then neither listened nor watched,
and the error is the last that it logs.
-/

namespace ChartOperator

/-! ## Acts of computations in a row -/

namespace Attempt

variable {ε δ α β γ : Type}

theorem result_bind (first : Attempt ε α) (next : α → Attempt ε β) :
    (first >>= next).result = first.result >>= fun a => (next a).result := by
  cases outcome : first.result with
  | error e => rw [bind_of_error outcome]; rfl
  | ok a => rw [bind_of_ok outcome]; rfl

theorem bind_assoc (first : Attempt ε α) (next : α → Attempt ε β) (last : β → Attempt ε γ) :
    first >>= next >>= last = first >>= fun a => next a >>= last := by
  cases outcome : first.result with
  | error e => rw [bind_of_error outcome, bind_of_error rfl, bind_of_error outcome]
  | ok a =>
      rw [bind_of_ok outcome, bind_of_ok outcome]
      cases between : (next a).result with
      | error e => rw [bind_of_error between, bind_of_error rfl]
      | ok b => rw [bind_of_ok between, bind_of_ok rfl, List.append_assoc]

end Attempt

/-- An event that is neither an error nor the start of a manager. -/
def Event.IsEarly (event : Event) : Prop :=
  event.level ≠ .error ∧ ∀ controllers tasks, event ≠ .managerStarting controllers tasks

/-- An act of a run that prepares for the start of its manager. -/
inductive Act.IsPreparatory : Act → Prop where
  | log {event : Event} (early : event.IsEarly) : IsPreparatory (.log event)
  | inferClient : IsPreparatory .inferClient

/-- Whether something is opened or watched. -/
def Act.serves : Act → Bool
  | .listen _ _ | .watch _ => true
  | .log _ | .inferClient => false

theorem Act.IsPreparatory.serves_eq_false {act : Act} (preparatory : act.IsPreparatory) :
    act.serves = false := by
  cases preparatory with
  | log => rfl
  | inferClient => rfl

namespace Attempt

variable {ε δ α β : Type}

/-- A computation that does nothing but prepare. -/
def IsPreparatory (attempt : Attempt ε α) : Prop :=
  ∀ act ∈ attempt.acts, act.IsPreparatory

theorem IsPreparatory.bind {first : Attempt ε α} {next : α → Attempt ε β}
    (preparatory : first.IsPreparatory) (nextPreparatory : ∀ a, (next a).IsPreparatory) :
    (first >>= next).IsPreparatory := by
  intro act mem
  cases outcome : first.result with
  | error e =>
      rw [bind_of_error outcome] at mem
      exact preparatory act mem
  | ok a =>
      rw [bind_of_ok outcome] at mem
      rcases List.mem_append.mp mem with early | late
      · exact preparatory act early
      · exact nextPreparatory a act late

theorem isPreparatory_ofExcept (result : Except ε α) : (ofExcept result).IsPreparatory := by
  intro act mem
  cases mem

theorem isPreparatory_logAll {events : List Event} (early : ∀ event ∈ events, event.IsEarly)
    (result : Except ε α) : IsPreparatory ⟨events.map .log, result⟩ := by
  intro act mem
  obtain ⟨event, logged, rfl⟩ := List.mem_map.mp mem
  exact Act.IsPreparatory.log (early event logged)

theorem isPreparatory_log {event : Event} (early : event.IsEarly) :
    (log event : Attempt ε Unit).IsPreparatory := by
  intro act mem
  obtain rfl := List.mem_singleton.mp mem
  exact Act.IsPreparatory.log early

theorem IsPreparatory.mapError {attempt : Attempt ε α} (preparatory : attempt.IsPreparatory)
    (f : ε → δ) : (attempt.mapError f).IsPreparatory :=
  preparatory

theorem acts_bind_of_ok {first : Attempt ε α} {a : α} (succeeds : first.result = .ok a)
    (next : α → Attempt ε β) : (first >>= next).acts = first.acts ++ (next a).acts := by
  rw [bind_of_ok succeeds]

end Attempt

/-! ## Preparation and start -/

/-- What a run does before its manager starts. -/
def prepareRun (flags : Flags) (around : Surroundings) :
    Attempt OperatorError (Manager × Nat) := do
  let plan ← announcePlan around.sources flags
  .act .inferClient
  let cluster ← .ofExcept (around.cluster.mapError .client)
  let manager ← prepareManager plan
  bindWatches around.sources cluster plan manager

/-- What a run does once its controllers are bound. -/
def finishRun (around : Surroundings) (bound : Manager × Nat) : Attempt OperatorError Unit := do
  .log (.operatorStarting bound.2)
  (bound.1.start around.host around.course).mapError .runLoop
  .log .managerStopped

theorem runOperator_eq (flags : Flags) (around : Surroundings) :
    runOperator flags around = prepareRun flags around >>= finishRun around := by
  simp only [runOperator, prepareRun, Attempt.bind_assoc]
  rfl

/-! ## Gates -/

/-- A gate that a run has to pass before its manager starts. -/
inductive Gate where
  | plan
  | client
  | options
  | checks
  | watches
  | binding

/-- The controllers of a run. -/
def bindingOf (around : Surroundings) (cluster : Cluster) (plan : StartupPlan) (manager : Manager)
    (entries : List WatchEntry) : Binding Manager :=
  (managerBinder around.sources.files cluster).bind plan.tuning manager entries

/-- The watch list of a run. -/
def watchesOf (around : Surroundings) (plan : StartupPlan) : Except WatchError (List WatchEntry) :=
  loadWatches around.sources.files around.sources.environment plan.settings.watchesFile

/-- The options for the manager of a run. -/
def optionsOf (plan : StartupPlan) : Except AddressError ManagerOptions :=
  ManagerOptions.ofSettings plan.settings plan.scope.cacheStrategy

/-- A run that has its manager. -/
structure HasManager (flags : Flags) (around : Surroundings) (plan : StartupPlan)
    (cluster : Cluster) (manager : Manager) : Prop where
  planned : planRun around.sources flags = .ok plan
  connected : around.cluster = .ok cluster
  made : ∃ options, optionsOf plan = .ok options ∧
    Manager.attachChecks { options := options } = .ok manager

/-- A run that passes all of its gates. -/
structure PassesAll (flags : Flags) (around : Surroundings) (plan : StartupPlan)
    (cluster : Cluster) (manager : Manager) (entries : List WatchEntry) : Prop
    extends HasManager flags around plan cluster manager where
  loaded : watchesOf around plan = .ok entries
  bound : (bindingOf around cluster plan manager entries).result = .ok entries.length

/-- The gate at which a run fails, with its error: the gates before it are passed. -/
inductive FailsAt (flags : Flags) (around : Surroundings) : Gate → OperatorError → Prop where
  | plan {e : OperatorError} (refused : planRun around.sources flags = .error e) :
      FailsAt flags around .plan e
  | client {plan : StartupPlan} {fault : ClientFault}
      (planned : planRun around.sources flags = .ok plan)
      (refused : around.cluster = .error fault) : FailsAt flags around .client (.client fault)
  | options {plan : StartupPlan} {cluster : Cluster} {cause : AddressError}
      (planned : planRun around.sources flags = .ok plan) (connected : around.cluster = .ok cluster)
      (refused : optionsOf plan = .error cause) :
      FailsAt flags around .options (.manager (.bindAddress cause))
  | checks {plan : StartupPlan} {cluster : Cluster} {options : ManagerOptions}
      {cause : ManagerError} (planned : planRun around.sources flags = .ok plan)
      (connected : around.cluster = .ok cluster) (made : optionsOf plan = .ok options)
      (refused : Manager.attachChecks { options := options } = .error cause) :
      FailsAt flags around .checks (.healthCheck cause)
  | watches {plan : StartupPlan} {cluster : Cluster} {manager : Manager} {cause : WatchError}
      (before : HasManager flags around plan cluster manager)
      (refused : watchesOf around plan = .error cause) :
      FailsAt flags around .watches (.watches cause)
  | binding {plan : StartupPlan} {cluster : Cluster} {manager : Manager}
      {entries : List WatchEntry} {cause : BindError}
      (before : HasManager flags around plan cluster manager)
      (loaded : watchesOf around plan = .ok entries)
      (refused : (bindingOf around cluster plan manager entries).result = .error cause) :
      FailsAt flags around .binding (.bind cause)

section

variable {flags : Flags} {around : Surroundings}

theorem result_announcePlan (sources : ConfigSources) (flags : Flags) :
    (announcePlan sources flags).result = planRun sources flags := by
  simp only [announcePlan, Attempt.result_bind]
  cases planRun sources flags with
  | error e => rfl
  | ok plan => rfl

theorem result_prepareManager (plan : StartupPlan) :
    (prepareManager plan).result =
      (optionsOf plan).mapError (fun cause => .manager (.bindAddress cause)) >>= fun options =>
        (Manager.attachChecks { options := options }).mapError .healthCheck := by
  simp only [prepareManager, Attempt.result_bind]
  rfl

theorem result_bindWatches (cluster : Cluster) (plan : StartupPlan) (manager : Manager) :
    (bindWatches around.sources cluster plan manager).result =
      (watchesOf around plan).mapError .watches >>= fun entries =>
        ((bindingOf around cluster plan manager entries).attempt.result).mapError .bind := by
  simp only [bindWatches, Attempt.result_bind]
  rfl

theorem result_prepareRun (flags : Flags) (around : Surroundings) :
    (prepareRun flags around).result = planRun around.sources flags >>= fun plan =>
      around.cluster.mapError .client >>= fun cluster =>
        (prepareManager plan).result >>= fun manager =>
          (bindWatches around.sources cluster plan manager).result := by
  simp only [prepareRun, Attempt.result_bind, result_announcePlan]
  rfl

/-- A run fails before its manager starts exactly if it fails at some gate. -/
theorem result_prepareRun_eq_error_iff {e : OperatorError} :
    (prepareRun flags around).result = .error e ↔ ∃ gate, FailsAt flags around gate e := by
  simp only [result_prepareRun, result_prepareManager, result_bindWatches, bind_eq_error_iff,
    bind_eq_ok_iff, mapError_eq_error_iff, mapError_eq_ok_iff, Binding.attempt, map_eq_error_iff]
  constructor
  · rintro (planRefused | ⟨plan, planned, ⟨fault, clientRefused, rfl⟩ | ⟨cluster, connected,
      (⟨cause, optionsRefused, rfl⟩ | ⟨options, made, cause, checksRefused, rfl⟩) |
      ⟨manager, ⟨options, made, checked⟩, ⟨cause, watchesRefused, rfl⟩ |
        ⟨entries, loaded, cause, notBound, rfl⟩⟩⟩⟩)
    · exact ⟨_, .plan planRefused⟩
    · exact ⟨_, .client planned clientRefused⟩
    · exact ⟨_, .options planned connected optionsRefused⟩
    · exact ⟨_, .checks planned connected made checksRefused⟩
    · exact ⟨_, .watches ⟨planned, connected, options, made, checked⟩ watchesRefused⟩
    · exact ⟨_, .binding ⟨planned, connected, options, made, checked⟩ loaded notBound⟩
  · rintro ⟨gate, fails⟩
    cases fails with
    | plan refused => exact Or.inl refused
    | client planned refused => exact Or.inr ⟨_, planned, Or.inl ⟨_, refused, rfl⟩⟩
    | options planned connected refused =>
        exact Or.inr ⟨_, planned, Or.inr ⟨_, connected, Or.inl (Or.inl ⟨_, refused, rfl⟩)⟩⟩
    | checks planned connected made refused =>
        exact Or.inr ⟨_, planned, Or.inr ⟨_, connected,
          Or.inl (Or.inr ⟨_, made, _, refused, rfl⟩)⟩⟩
    | watches before refused =>
        exact Or.inr ⟨_, before.planned, Or.inr ⟨_, before.connected,
          Or.inr ⟨_, before.made, Or.inl ⟨_, refused, rfl⟩⟩⟩⟩
    | binding before loaded refused =>
        exact Or.inr ⟨_, before.planned, Or.inr ⟨_, before.connected,
          Or.inr ⟨_, before.made, Or.inr ⟨_, loaded, _, refused, rfl⟩⟩⟩⟩

/-- A manager without any checks is given its two checks, as each is the only one for its probe. -/
theorem attachChecks_fresh (options : ManagerOptions) :
    Manager.attachChecks { options := options } =
      .ok { options := options
            liveness := ⟨[livenessCheck]⟩
            readiness := ⟨[readinessCheck]⟩ } := by
  have live : ({ options := options } : Manager).addLiveness livenessCheck =
      .ok { options := options, liveness := ⟨[livenessCheck]⟩ } := by
    rw [Manager.addLiveness, Manager.result_enterCheck, HealthChecks.add_of_new rfl]
    rfl
  have ready : ({ options := options, liveness := ⟨[livenessCheck]⟩ } : Manager).addReadiness
      readinessCheck =
        .ok { options := options
              liveness := ⟨[livenessCheck]⟩
              readiness := ⟨[readinessCheck]⟩ } := by
    rw [Manager.addReadiness, Manager.result_enterCheck, HealthChecks.add_of_new rfl]
    rfl
  rw [Manager.attachChecks, live]
  exact ready

theorem fresh_of_attachChecks {options : ManagerOptions} {manager : Manager}
    (attached : Manager.attachChecks { options := options } = .ok manager) :
    manager =
      { options := options, liveness := ⟨[livenessCheck]⟩, readiness := ⟨[readinessCheck]⟩ } := by
  rw [attachChecks_fresh] at attached
  exact (Except.ok.inj attached).symm

/-- A run gets to the start of its manager exactly if it passes all gates; it then has the registry
of its controllers. -/
theorem result_prepareRun_eq_ok_iff {ready : Manager × Nat} :
    (prepareRun flags around).result = .ok ready ↔
      ∃ plan cluster manager entries, PassesAll flags around plan cluster manager entries ∧
        ready = ((bindingOf around cluster plan manager entries).registry, entries.length) := by
  simp only [result_prepareRun, result_prepareManager, result_bindWatches, bind_eq_ok_iff,
    mapError_eq_ok_iff, Binding.attempt, map_eq_ok_iff]
  constructor
  · rintro ⟨plan, planned, cluster, connected, manager, made, entries, loaded, count, bound, rfl⟩
    obtain ⟨rfl, -⟩ := Binder.exists_run_of_bind bound
    exact ⟨plan, cluster, manager, entries, ⟨⟨planned, connected, made⟩, loaded, bound⟩, rfl⟩
  · rintro ⟨plan, cluster, manager, entries, passes, rfl⟩
    exact ⟨plan, passes.planned, cluster, passes.connected, manager, passes.made, entries,
      passes.loaded, entries.length, passes.bound, rfl⟩

/-! ## What is done before the manager starts -/

theorem isPreparatory_announcePlan (sources : ConfigSources) (flags : Flags) :
    (announcePlan sources flags).IsPreparatory := by
  apply (Attempt.isPreparatory_log (by simp [Event.IsEarly, Event.level])).bind
  intro _
  apply (Attempt.isPreparatory_ofExcept _).bind
  intro plan
  have notices : ∀ event ∈ plan.notices.map Event.notice, event.IsEarly := by
    simp [Event.IsEarly, Event.level]
  apply (Attempt.isPreparatory_logAll notices _).bind
  intro _
  apply (Attempt.isPreparatory_log (by simp [Event.IsEarly, Event.level])).bind
  intro _
  exact Attempt.isPreparatory_ofExcept _

theorem isPreparatory_prepareManager (plan : StartupPlan) :
    (prepareManager plan).IsPreparatory := by
  apply (Attempt.isPreparatory_ofExcept _).bind
  intro options
  have election : ∀ event ∈ options.events, event.IsEarly := by
    intro event logged
    rw [ManagerOptions.events] at logged
    split at logged
    · obtain rfl := List.mem_singleton.mp logged
      simp [Event.IsEarly, Event.level]
    · cases logged
  apply (Attempt.isPreparatory_logAll election _).bind
  intro manager
  exact Attempt.isPreparatory_ofExcept _

theorem isPreparatory_bindWatches (sources : ConfigSources) (cluster : Cluster)
    (plan : StartupPlan) (manager : Manager) :
    (bindWatches sources cluster plan manager).IsPreparatory := by
  apply (Attempt.isPreparatory_ofExcept _).bind
  intro entries
  apply (Attempt.isPreparatory_log (by simp [Event.IsEarly, Event.level])).bind
  intro _
  apply Attempt.IsPreparatory.mapError
  intro act mem
  obtain ⟨watch, -, rfl⟩ := List.mem_map.mp mem
  exact Act.IsPreparatory.log (by simp [Event.IsEarly, Event.level])

/-- Whatever becomes of a run, it only prepares before its manager starts. -/
theorem isPreparatory_prepareRun (flags : Flags) (around : Surroundings) :
    (prepareRun flags around).IsPreparatory := by
  apply (isPreparatory_announcePlan around.sources flags).bind
  intro plan
  have inferring : (Attempt.act .inferClient : Attempt OperatorError Unit).IsPreparatory := by
    intro act mem
    obtain rfl := List.mem_singleton.mp mem
    exact Act.IsPreparatory.inferClient
  apply inferring.bind
  intro _
  apply (Attempt.isPreparatory_ofExcept _).bind
  intro cluster
  apply (isPreparatory_prepareManager plan).bind
  intro manager
  exact isPreparatory_bindWatches around.sources cluster plan manager

section Ready

variable {plan : StartupPlan} {cluster : Cluster} {manager : Manager} {entries : List WatchEntry}

/-- Before the manager of a run starts, the watch list is loaded and its entries are bound, one
after the other. -/
theorem acts_prepareRun_of_passesAll
    (passes : PassesAll flags around plan cluster manager entries) :
    ∃ early, (prepareRun flags around).acts =
      early ++ .log (.watchesLoaded entries.length plan.settings.watchesFile) ::
        (bindingOf around cluster plan manager entries).configured.map fun watch =>
          .log (.watchConfigured watch) := by
  have announced : (announcePlan around.sources flags).result = .ok plan := by
    rw [result_announcePlan, passes.planned]
  have connected : (Attempt.ofExcept (around.cluster.mapError OperatorError.client)).result =
      .ok cluster := mapError_eq_ok_iff.mpr passes.connected
  have made : (prepareManager plan).result = .ok manager := by
    simp only [result_prepareManager, bind_eq_ok_iff, mapError_eq_ok_iff]
    exact passes.made
  have loaded : (Attempt.ofExcept ((watchesOf around plan).mapError OperatorError.watches)).result =
      .ok entries := mapError_eq_ok_iff.mpr passes.loaded
  have bound : (bindWatches around.sources cluster plan manager).acts =
      .log (.watchesLoaded entries.length plan.settings.watchesFile) ::
        (bindingOf around cluster plan manager entries).configured.map fun watch =>
          .log (.watchConfigured watch) :=
    Attempt.acts_bind_of_ok loaded _
  refine ⟨(announcePlan around.sources flags).acts ++
    .inferClient :: (prepareManager plan).acts, ?_⟩
  rw [prepareRun, Attempt.acts_bind_of_ok announced, Attempt.acts_bind_of_ok (a := ()) rfl,
    Attempt.acts_bind_of_ok connected, Attempt.acts_bind_of_ok made, bound]
  simp [Attempt.act, Attempt.ofExcept]

/-- The acts of a run up to some point show that its watch list was loaded and all of it bound. -/
structure IsBoundWithin (flags : Flags) (around : Surroundings) (plan : StartupPlan)
    (cluster : Cluster) (manager : Manager) (entries : List WatchEntry) (acts : List Act) :
    Prop where
  passes : PassesAll flags around plan cluster manager entries
  /-- There is a controller for each entry, and no other. -/
  kinds : (bindingOf around cluster plan manager entries).registry.kinds = entries.map (·.gvk)
  /-- The watch list is reported with its length, and then each of its entries. -/
  reported : ∃ early configured late,
    acts = early ++ .log (.watchesLoaded entries.length plan.settings.watchesFile) ::
      (configured.map fun watch => .log (.watchConfigured watch)) ++ late ∧
    List.Forall₂ (fun entry watch => watch.gvk = entry.gvk ∧ watch.chartPath = entry.chartDir)
      entries configured

theorem isBoundWithin_of_passesAll (passes : PassesAll flags around plan cluster manager entries)
    (late : List Act) :
    IsBoundWithin flags around plan cluster manager entries
      ((prepareRun flags around).acts ++ late) := by
  obtain ⟨-, rs, last, run⟩ := Binder.exists_run_of_bind passes.bound
  have binding : bindingOf around cluster plan manager entries =
      { registry := last, configured := List.zipWith WatchEntry.configured entries rs } :=
    Binder.bind_of_run run
  constructor
  case passes => exact passes
  case kinds =>
    obtain ⟨options, -, attached⟩ := passes.made
    have registered := Manager.kinds_of_run rfl run
    rw [fresh_of_attachChecks attached] at registered
    rw [binding, registered]
    rfl
  case reported =>
    obtain ⟨early, acts⟩ := acts_prepareRun_of_passesAll passes
    refine ⟨early, _, late, by rw [acts], ?_⟩
    rw [binding]
    apply run.forall₂_configured.imp
    rintro entry watch ⟨r, -, rfl⟩
    exact ⟨rfl, rfl⟩

end Ready

/-! ## The process -/

/-- The events of a run, with the error that ends it. -/
def emitted (flags : Flags) (around : Surroundings) : List Event :=
  (runOperator flags around).events ++ closingEvents (runOperator flags around).result

/-- What becomes of a process whose run gives up with an error before its manager starts. -/
structure GivesUp (options : RunOptions) (filter : Filter) (around : Surroundings)
    (e : OperatorError) (process : ProcessResult) : Prop where
  result : (runOperator options.flags around).result = .error e
  exitCode : process.exitCode = 1
  /-- The last event is an error, and there is no other. -/
  events : ∃ earlier, emitted options.flags around = earlier ++ [.failed e.message] ∧
    ∀ event ∈ earlier, event.level ≠ .error
  /-- The filter admits some of the events to the log. -/
  output : process.output = .events options.logFormat
    ((emitted options.flags around).filter fun event => filter.admits event.occurrence)
  /-- No listener is opened, and no watcher started. -/
  noService : ∀ act ∈ (runOperator options.flags around).acts, act.serves = false
  noStart : ∀ controllers tasks,
    .managerStarting controllers tasks ∉ emitted options.flags around

theorem mem_events_iff {ε α : Type} {attempt : Attempt ε α} {event : Event} :
    event ∈ attempt.events ↔ .log event ∈ attempt.acts := by
  simp only [Attempt.events, List.mem_filterMap]
  constructor
  · rintro ⟨act, mem, logged⟩
    cases act with
    | log event' =>
        obtain rfl := Option.some.inj logged
        exact mem
    | inferClient => contradiction
    | listen server address => contradiction
    | watch watcher => contradiction
  · intro mem
    exact ⟨.log event, mem, rfl⟩

/-- A run that fails before its manager starts ends there. -/
theorem runOperator_of_failsAt {gate : Gate} {e : OperatorError}
    (fails : FailsAt flags around gate e) :
    runOperator flags around = ⟨(prepareRun flags around).acts, .error e⟩ := by
  rw [runOperator_eq]
  exact Attempt.bind_of_error (result_prepareRun_eq_error_iff.mpr ⟨gate, fails⟩)

theorem isEarly_of_mem_events {gate : Gate} {e : OperatorError}
    (fails : FailsAt flags around gate e) {event : Event}
    (mem : event ∈ (runOperator flags around).events) : event.IsEarly := by
  rw [mem_events_iff, runOperator_of_failsAt fails] at mem
  cases isPreparatory_prepareRun flags around _ mem with
  | log early => exact early

theorem runProcess_eq {arguments : List Argument} {options : RunOptions} {filter : Filter}
    (parsed : CommandLine.parse arguments = .ok options)
    (logging : logFilter around.sources.environment options = .ok filter) :
    runProcess arguments around =
      { exitCode := exitCodeOf (runOperator options.flags around).result
        output := .events options.logFormat <|
          (emitted options.flags around).filter fun event => filter.admits event.occurrence } := by
  rw [runProcess, parsed]
  dsimp only
  rw [logging]
  rfl

theorem givesUp_of_failsAt {arguments : List Argument} {options : RunOptions} {filter : Filter}
    (parsed : CommandLine.parse arguments = .ok options)
    (logging : logFilter around.sources.environment options = .ok filter) {gate : Gate}
    {e : OperatorError} (fails : FailsAt options.flags around gate e) :
    GivesUp options filter around e (runProcess arguments around) := by
  have stopped := runOperator_of_failsAt fails
  have closing : closingEvents (runOperator options.flags around).result = [.failed e.message] := by
    rw [stopped]
    rfl
  constructor
  case result => rw [stopped]
  case exitCode =>
    rw [runProcess_eq parsed logging, stopped]
    rfl
  case events =>
    refine ⟨_, by rw [emitted, closing], ?_⟩
    intro event mem
    exact (isEarly_of_mem_events fails mem).1
  case output => rw [runProcess_eq parsed logging]
  case noService =>
    intro act mem
    rw [stopped] at mem
    exact (isPreparatory_prepareRun options.flags around act mem).serves_eq_false
  case noStart =>
    intro controllers tasks mem
    rw [emitted, closing] at mem
    rcases List.mem_append.mp mem with earlier | last
    · exact (isEarly_of_mem_events fails earlier).2 controllers tasks rfl
    · simp at last

/-- What a run has done before it first opens or watches something shows that its watches are
bound. -/
theorem exists_isBoundWithin_of_serves {before after : List Act} {act : Act}
    (acts : (runOperator flags around).acts = before ++ act :: after) (serves : act.serves = true) :
    ∃ plan cluster manager entries,
      IsBoundWithin flags around plan cluster manager entries before := by
  have late : act ∉ (prepareRun flags around).acts := by
    intro mem
    rw [(isPreparatory_prepareRun flags around act mem).serves_eq_false] at serves
    contradiction
  rw [runOperator_eq] at acts
  cases outcome : (prepareRun flags around).result with
  | error e =>
      rw [Attempt.bind_of_error outcome] at acts
      exact absurd (by rw [acts]; simp) late
  | ok ready =>
      obtain ⟨plan, cluster, manager, entries, passes, -⟩ := result_prepareRun_eq_ok_iff.mp outcome
      rw [Attempt.acts_bind_of_ok outcome] at acts
      refine ⟨plan, cluster, manager, entries, ?_⟩
      rcases List.append_eq_append_iff.mp acts with ⟨between, rfl, -⟩ | ⟨rest, prepared, others⟩
      · exact isBoundWithin_of_passesAll passes between
      · cases rest with
        | nil =>
            rw [List.append_nil] at prepared
            rw [← prepared]
            simpa using isBoundWithin_of_passesAll passes []
        | cons first rest =>
            obtain rfl : act = first := (List.cons.inj others).1
            exact absurd (by rw [prepared]; simp) late

theorem result_finishRun_eq_ok_iff {ready : Manager × Nat} :
    (finishRun around ready).result = .ok () ↔
      (ready.1.start around.host around.course).result = .ok () := by
  simp only [finishRun, Attempt.result_bind, bind_eq_ok_iff]
  constructor
  · rintro ⟨_, -, _, started, -⟩
    exact mapError_eq_ok_iff.mp started
  · intro started
    exact ⟨(), rfl, (), mapError_eq_ok_iff.mpr started, rfl⟩

/-- A run succeeds exactly if it passes all gates and its manager comes to a good end. -/
theorem result_runOperator_eq_ok_iff :
    (runOperator flags around).result = .ok () ↔
      ∃ plan cluster manager entries, PassesAll flags around plan cluster manager entries ∧
        ((bindingOf around cluster plan manager entries).registry.start around.host
          around.course).result = .ok () := by
  simp only [runOperator_eq, Attempt.result_bind, bind_eq_ok_iff, result_finishRun_eq_ok_iff,
    result_prepareRun_eq_ok_iff]
  constructor
  · rintro ⟨_, ⟨plan, cluster, manager, entries, passes, rfl⟩, started⟩
    exact ⟨plan, cluster, manager, entries, passes, started⟩
  · rintro ⟨plan, cluster, manager, entries, passes, started⟩
    exact ⟨_, ⟨plan, cluster, manager, entries, passes, rfl⟩, started⟩

theorem exitCodeOf_eq_zero_iff {result : Except OperatorError Unit} :
    exitCodeOf result = 0 ↔ result = .ok () := by
  cases result with
  | error e => simp [exitCodeOf]
  | ok _ => simp [exitCodeOf]

theorem not_failsAt_checks {e : OperatorError} : ¬ FailsAt flags around .checks e := by
  intro fails
  cases fails with
  | checks _ _ _ refused =>
      rw [attachChecks_fresh] at refused
      cases refused

/-- A process whose run fails at a gate gives up with the error of that gate.  It only listens or
watches once the watch list is loaded and all of it bound, and its exit code is zero exactly if its
manager comes to a good end.  The health checks are no gate that is ever closed. -/
theorem runProcess_gated {arguments : List Argument} {options : RunOptions} {filter : Filter}
    (parsed : CommandLine.parse arguments = .ok options)
    (logging : logFilter around.sources.environment options = .ok filter) :
    ((∃ gate e, FailsAt options.flags around gate e) ∨
      ∃ plan cluster manager entries, PassesAll options.flags around plan cluster manager entries) ∧
    (∀ gate e, FailsAt options.flags around gate e →
      GivesUp options filter around e (runProcess arguments around)) ∧
    (∀ before act after, (runOperator options.flags around).acts = before ++ act :: after →
      act.serves = true → ∃ plan cluster manager entries,
        IsBoundWithin options.flags around plan cluster manager entries before) ∧
    ((runProcess arguments around).exitCode = 0 ↔
      ∃ plan cluster manager entries,
        PassesAll options.flags around plan cluster manager entries ∧
        ((bindingOf around cluster plan manager entries).registry.start around.host
          around.course).result = .ok ()) ∧
    (∀ e, ¬ FailsAt options.flags around .checks e) ∧
    ∀ managerOptions : ManagerOptions,
      ∃ manager, Manager.attachChecks { options := managerOptions } = .ok manager := by
  refine ⟨?_, ?_, ?_, ?_, fun e => not_failsAt_checks, ?_⟩
  · cases outcome : (prepareRun options.flags around).result with
    | error e =>
        obtain ⟨gate, fails⟩ := result_prepareRun_eq_error_iff.mp outcome
        exact Or.inl ⟨gate, e, fails⟩
    | ok ready =>
        obtain ⟨plan, cluster, manager, entries, passes, -⟩ :=
          result_prepareRun_eq_ok_iff.mp outcome
        exact Or.inr ⟨plan, cluster, manager, entries, passes⟩
  · intro gate e fails
    exact givesUp_of_failsAt parsed logging fails
  · intro before act after acts serves
    exact exists_isBoundWithin_of_serves acts serves
  · rw [runProcess_eq parsed logging, exitCodeOf_eq_zero_iff, result_runOperator_eq_ok_iff]
  · intro managerOptions
    exact ⟨_, rfl⟩

end

/-- A working directory with the watch list of the example, where the chart may be missing. -/
def exampleSurroundings (chart : List (Bytes × FileEntry)) : Surroundings where
  sources := {
    files := ⟨(Utf8.ofString "watches.yaml", .file (Utf8.ofString exampleWatches)) :: chart⟩
    environment := fun _ => none
    processors := 1 }
  cluster := .ok exampleCluster

/-- The directory of a chart. -/
def exampleChart : List (Bytes × FileEntry) :=
  [(Utf8.ofString "app", .directory
    [(Utf8.ofString "Chart.yaml", .file (Utf8.ofString "name: app\nversion: 1.0.0\n"))])]

/-- Without the chart the run fails where the watches are bound.  With the chart it comes to a good
end. -/
theorem runProcess_gated_exampleSurroundings :
    (∃ e, FailsAt {} (exampleSurroundings []) .binding e ∧
      GivesUp {} defaultFilter (exampleSurroundings []) e
        (runProcess (["helm-operator", "run"].map Utf8.ofString) (exampleSurroundings []))) ∧
    (runProcess (["helm-operator", "run"].map Utf8.ofString)
        (exampleSurroundings exampleChart)).exitCode = 0 ∧
      ∃ plan cluster manager entries,
        PassesAll {} (exampleSurroundings exampleChart) plan cluster manager entries := by
  have parsed : CommandLine.parse (["helm-operator", "run"].map Utf8.ofString) =
      .ok ({} : RunOptions) := by
    rw [← toOption_eq_some_iff]
    decide +kernel
  constructor
  · have computed : (planRun (exampleSurroundings []).sources {}).toOption.bind (fun plan =>
        (optionsOf plan).toOption.bind fun options =>
          (Manager.attachChecks { options := options }).toOption.bind fun manager =>
            (watchesOf (exampleSurroundings []) plan).toOption.map fun entries =>
              (bindingOf (exampleSurroundings []) exampleCluster plan manager
                entries).result.isOk) = some false := by
      decide +kernel
    simp only [Option.bind_eq_some_iff, Option.map_eq_some_iff, toOption_eq_some_iff] at computed
    obtain ⟨plan, planned, options, made, manager, attached, entries, loaded, notBound⟩ := computed
    obtain ⟨e, refused⟩ := exists_eq_error_of_isOk_eq_false notBound
    have fails : FailsAt {} (exampleSurroundings []) .binding (.bind e) :=
      .binding ⟨planned, rfl, options, made, attached⟩ loaded refused
    exact ⟨_, fails, (runProcess_gated parsed rfl).2.1 _ _ fails⟩
  · have succeeds : (runProcess (["helm-operator", "run"].map Utf8.ofString)
        (exampleSurroundings exampleChart)).exitCode = 0 := by
      decide +kernel
    obtain ⟨plan, cluster, manager, entries, passes, -⟩ :=
      (runProcess_gated parsed rfl).2.2.2.1.mp succeeds
    exact ⟨succeeds, plan, cluster, manager, entries, passes⟩

end ChartOperator
