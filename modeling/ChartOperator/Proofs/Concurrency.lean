import ChartOperator.Proofs.Gates
import ChartOperator.Proofs.Precedence
import ChartOperator.Proofs.Starting

/-!
# How many resources are reconciled at a time

A limit comes from the watch list, a flag, a variable or the defaults, and the plan and the binding
hand it to the watchers, which keep it in a word of 16 bits.  No stage lets a limit of zero through,
and a limit that is too large for the word becomes the largest one, so that no watcher ever runs
with a limit of zero, which would stand for no limit at all.
-/

namespace ChartOperator

/-- The limit for the kind of an entry: the first of its own one, that of the flags and that of the
environment, or else the number of processors. -/
def WatchDraft.limit (draft : WatchDraft) (sources : ConfigSources) (flags : Flags) : Nat :=
  (draft.maxConcurrentReconciles <|> flags.maxConcurrentReconciles <|>
    sources.environment.value? .maxConcurrentReconciles).getD sources.processors

/-- A watcher for the kind of an entry that runs with the limit for this entry. -/
structure Watcher.KeepsLimit (watcher : Watcher) (draft : WatchDraft) (sources : ConfigSources)
    (flags : Flags) : Prop where
  gvk : watcher.controller.gvk = draft.gvk
  concurrency : watcher.concurrency = min Text.maxWord16 (draft.limit sources flags)
  positive : 1 ≤ watcher.concurrency
  fits : watcher.concurrency ≤ Text.maxWord16

/-! ## From the sources to the controllers -/

section

variable {sources : ConfigSources} {flags : Flags} {draft : WatchDraft}

theorem WatchDraft.limit_eq (draft : WatchDraft) (sources : ConfigSources) (flags : Flags) :
    draft.limit sources flags =
      draft.maxConcurrentReconciles.getD (effectiveLimit sources flags) := by
  rw [limit]
  cases draft.maxConcurrentReconciles with
  | none => rfl
  | some limit => rfl

/-- The plan has the limit of the first source that sets one, and it is not zero. -/
theorem limit_of_planRun {plan : StartupPlan} (planned : planRun sources flags = .ok plan) :
    plan.tuning.maxConcurrentReconciles = effectiveLimit sources flags ∧
      effectiveLimit sources flags ≠ 0 := by
  obtain ⟨-, file, values, -, valuesRead, positive, -, rfl⟩ := planRun_eq_ok_iff.mp planned
  exact ⟨limit_merged file valuesRead, positive⟩

/-- The entries of a watch list that is loaded are checked forms of those in its file. -/
theorem exists_drafts_of_loadWatches {files : FileTree} {env : Environment} {path : Path}
    {entries : List WatchEntry} (loaded : loadWatches files env path = .ok entries) :
    ∃ content drafts, files.readText path = .ok content ∧ readDrafts content = .ok drafts ∧
      parseWatches env content = .ok entries ∧
      List.Forall₂ (WatchDraft.Accepts env) drafts entries := by
  unfold loadWatches at loaded
  split at loaded
  · contradiction
  · rename_i content contentRead
    have parsed := loaded
    unfold parseWatches at loaded
    split at loaded
    · contradiction
    · rename_i drafts draftsRead
      exact ⟨content, drafts, contentRead, draftsRead, parsed, (checkDrafts_eq_ok_iff.mp loaded).1⟩

/-- The watchers of a controller run with the limit for its entry, since the plan and the entry have
it and neither of them is zero. -/
theorem keepsLimit_of_isReconcilerOf {binder : Binder Manager} {plan : StartupPlan}
    {entry : WatchEntry} {watcher : Watcher} (planned : planRun sources flags = .ok plan)
    (accepts : draft.Accepts sources.environment entry)
    (built : IsReconcilerOf binder plan.tuning entry watcher.controller.reconciler) :
    watcher.KeepsLimit draft sources flags := by
  obtain ⟨ofPlan, nonzero⟩ := limit_of_planRun planned
  have handedOver : watcher.controller.reconciler.maxConcurrentReconciles =
      draft.limit sources flags := by
    rw [built.maxConcurrentReconciles, accepts.limit, ofPlan, draft.limit_eq]
  have positive : 1 ≤ draft.limit sources flags := by
    rw [draft.limit_eq, Nat.one_le_iff_ne_zero]
    cases own : draft.maxConcurrentReconciles with
    | none => exact nonzero
    | some limit =>
        rintro rfl
        exact accepts.concurrency own
  have kept : watcher.concurrency = min Text.maxWord16 (draft.limit sources flags) := by
    rw [Watcher.concurrency, handedOver]
  constructor
  case gvk => exact built.gvk.trans accepts.gvk
  case concurrency => exact kept
  case positive =>
    rw [kept]
    exact Nat.le_min.mpr ⟨by decide, positive⟩
  case fits =>
    rw [kept]
    exact Nat.min_le_left _ _

end

/-! ## The watchers that a run starts -/

/-- A manager starts watchers of its own controllers only, whatever becomes of its listeners. -/
theorem controller_of_watch_start {manager : Manager} {host : Host} {course : Course}
    {watcher : Watcher} (started : .watch watcher ∈ (manager.start host course).acts) :
    watcher.controller ∈ manager.controllers := by
  by_cases opens : host.OpensAll manager.servers
  · rw [Manager.start_of_opensAll opens] at started
    have isWatcher : watcher ∈ manager.watchers := by
      simpa [Attempt.after, launch] using started
    obtain ⟨controller, registered, ofController⟩ := List.mem_flatMap.mp isWatcher
    obtain ⟨scope, -, rfl⟩ := List.mem_map.mp ofController
    exact registered
  · obtain ⟨opened, server, address, fault, rest, split, opensFirst, refused⟩ :=
      exists_refused_of_not_opensAll opens
    rw [Manager.start_of_refused split opensFirst refused] at started
    simp at started

section

variable {flags : Flags} {around : Surroundings} {plan : StartupPlan} {cluster : Cluster}
  {manager : Manager} {entries : List WatchEntry}

/-- A run that has its controllers starts no watchers besides those of its manager. -/
theorem watch_start_of_watch_finishRun {ready : Manager × Nat} {watcher : Watcher}
    (started : .watch watcher ∈ (finishRun around ready).acts) :
    .watch watcher ∈ (ready.1.start around.host around.course).acts := by
  rw [finishRun, Attempt.acts_bind_of_ok (a := ()) rfl] at started
  cases outcome : (ready.1.start around.host around.course).result with
  | error e =>
      have failed : ((ready.1.start around.host around.course).mapError
          OperatorError.runLoop).result = .error (.runLoop e) := by
        rw [Attempt.mapError, outcome, mapError_error]
      rw [Attempt.bind_of_error failed] at started
      simpa [Attempt.log, Attempt.act, Attempt.mapError] using started
  | ok _ =>
      have succeeded : ((ready.1.start around.host around.course).mapError
          OperatorError.runLoop).result = .ok () := by
        rw [Attempt.mapError, outcome, mapError_ok]
      rw [Attempt.acts_bind_of_ok succeeded] at started
      simpa [Attempt.log, Attempt.act, Attempt.mapError] using started

theorem controller_of_watch_runOperator
    (passes : PassesAll flags around plan cluster manager entries) {watcher : Watcher}
    (started : .watch watcher ∈ (runOperator flags around).acts) :
    watcher.controller ∈ (bindingOf around cluster plan manager entries).registry.controllers := by
  have ready : (prepareRun flags around).result =
      .ok ((bindingOf around cluster plan manager entries).registry, entries.length) :=
    result_prepareRun_eq_ok_iff.mpr ⟨plan, cluster, manager, entries, passes, rfl⟩
  rw [runOperator_eq, Attempt.acts_bind_of_ok ready, List.mem_append] at started
  rcases started with early | late
  · have noService := (isPreparatory_prepareRun flags around _ early).serves_eq_false
    contradiction
  · exact controller_of_watch_start (watch_start_of_watch_finishRun late)

/-- When a run starts its manager, there is a controller for each entry of the watch file, in order,
and its watchers run with the limit for this entry: the entry's own, or that of the flags, of the
environment or of the defaults, but at most the largest word of 16 bits, and never zero.  The run
starts no other watchers. -/
theorem concurrency_of_passesAll (passes : PassesAll flags around plan cluster manager entries) :
    ∃ content drafts, around.sources.files.readText plan.settings.watchesFile = .ok content ∧
      readDrafts content = .ok drafts ∧
      List.Forall₂ (fun draft controller => ∀ scope,
          Watcher.KeepsLimit ⟨controller, scope⟩ draft around.sources flags)
        drafts (bindingOf around cluster plan manager entries).registry.controllers ∧
      ∀ watcher, .watch watcher ∈ (runOperator flags around).acts →
        ∃ draft ∈ drafts, watcher.KeepsLimit draft around.sources flags := by
  obtain ⟨content, drafts, contentRead, draftsRead, parsed, accepted⟩ :=
    exists_drafts_of_loadWatches passes.loaded
  obtain ⟨options, -, attached⟩ := passes.made
  have fresh : manager.controllers = [] := by
    rw [fresh_of_attachChecks attached]
  obtain ⟨-, controllers, registry, -, built, -⟩ := controllers_of_bind parsed fresh passes.bound
  have registered : (bindingOf around cluster plan manager entries).registry.controllers =
      controllers := congrArg Manager.controllers registry
  have limited : List.Forall₂ (fun draft controller => ∀ scope,
      Watcher.KeepsLimit ⟨controller, scope⟩ draft around.sources flags) drafts controllers := by
    refine forall₂_trans ?_ accepted built
    intro draft entry controller accepts isReconciler scope
    exact keepsLimit_of_isReconcilerOf passes.planned accepts isReconciler
  refine ⟨content, drafts, contentRead, draftsRead, registered ▸ limited, ?_⟩
  intro watcher started
  have isRegistered := controller_of_watch_runOperator passes started
  rw [registered] at isRegistered
  obtain ⟨draft, mem, keeps⟩ := exists_left_of_forall₂ limited isRegistered
  exact ⟨draft, mem, keeps watcher.scope⟩

end

/-- A watch file whose first entry has a limit that does not fit a word of 16 bits, and whose second
entry has none. -/
def exampleLimits : String :=
  "- version: v1\n  kind: Site\n  chart: app\n  maxConcurrentReconciles: 65536\n" ++
    "- version: v1\n  kind: Page\n  chart: app\n"

/-- The example in a working directory, and the largest limit of all in the environment. -/
def exampleLimitedSurroundings : Surroundings where
  sources := {
    files := ⟨(Utf8.ofString "watches.yaml", .file (Utf8.ofString exampleLimits)) :: exampleChart⟩
    environment name :=
      if name = Variable.maxConcurrentReconciles.name then some "18446744073709551615" else none
    processors := 1 }
  cluster := .ok exampleCluster

/-- Neither of the two limits becomes zero in the watchers of the example. -/
theorem concurrency_of_passesAll_exampleLimits :
    ∃ plan manager entries content drafts,
      PassesAll {} exampleLimitedSurroundings plan exampleCluster manager entries ∧
      readDrafts content = .ok drafts ∧
      drafts.map (·.limit exampleLimitedSurroundings.sources {}) =
        [65536, 18446744073709551615] ∧
      List.Forall₂ (fun draft controller => ∀ scope,
          Watcher.KeepsLimit ⟨controller, scope⟩ draft exampleLimitedSurroundings.sources {})
        drafts
        (bindingOf exampleLimitedSurroundings exampleCluster plan manager
          entries).registry.controllers ∧
      (runOperator {} exampleLimitedSurroundings).watchers.map (·.concurrency) =
        [65535, 65535] := by
  have computed : (planRun exampleLimitedSurroundings.sources {}).toOption.bind (fun plan =>
      (optionsOf plan).toOption.bind fun options =>
        (Manager.attachChecks { options := options }).toOption.bind fun manager =>
          (watchesOf exampleLimitedSurroundings plan).toOption.bind fun entries =>
            (bindingOf exampleLimitedSurroundings exampleCluster plan manager
              entries).result.toOption.map fun count => (plan.settings.watchesFile, count)) =
      some (Path.ofString "./watches.yaml", 2) := by
    decide +kernel
  have limits : (exampleLimitedSurroundings.sources.files.readText
      (Path.ofString "./watches.yaml")).toOption.bind (fun content =>
        (readDrafts content).toOption.map fun drafts =>
          drafts.map (·.limit exampleLimitedSurroundings.sources {})) =
      some [65536, 18446744073709551615] := by
    decide +kernel
  simp only [Option.bind_eq_some_iff, Option.map_eq_some_iff, toOption_eq_some_iff,
    Prod.mk.injEq] at computed
  obtain ⟨plan, planned, options, made, manager, attached, entries, loaded, count, bound, file,
    rfl⟩ := computed
  rw [(Binder.exists_run_of_bind bound).1] at bound
  have passes : PassesAll {} exampleLimitedSurroundings plan exampleCluster manager entries :=
    ⟨⟨planned, rfl, options, made, attached⟩, loaded, bound⟩
  obtain ⟨content, drafts, contentRead, draftsRead, limited, -⟩ := concurrency_of_passesAll passes
  rw [file] at contentRead
  simp only [Option.bind_eq_some_iff, Option.map_eq_some_iff, toOption_eq_some_iff, contentRead,
    draftsRead, Except.ok.injEq, exists_eq_left'] at limits
  exact ⟨plan, manager, entries, content, drafts, passes, draftsRead, limits, limited,
    by decide +kernel⟩

end ChartOperator
