import ChartOperator.Proofs.Binding
import ChartOperator.Proofs.Planning
import ChartOperator.Proofs.WatchList
import ChartOperator.Startup.Run

/-!
# Controllers for a watch list

A watch list that is read can be bound to a fresh manager, except for what only the charts, the
selectors and the cluster decide.  The kinds of the list are whole and different, so no kind is
missing, incomplete or registered twice.
-/

namespace ChartOperator

namespace Manager

variable {cluster : Cluster} {manager last : Manager}

/-- A reconciler is registered exactly if the cluster knows its kind and no controller is for it;
then a controller is added, and nothing else changes. -/
theorem register_eq_ok_iff {r : Reconciler} {next : Manager} :
    register cluster manager r = .ok next ↔
      ∃ type, cluster.discover r.gvk = .ok type ∧ r.gvk ∉ manager.kinds ∧
        next = { manager with controllers := manager.controllers ++ [⟨r, type⟩] } := by
  rw [register_eq]
  cases cluster.discover r.gvk with
  | error cause => simp
  | ok type =>
      by_cases known : r.gvk ∈ manager.kinds
      · simp [known]
      · simp [known, eq_comm]

theorem refusal_of_register {r : Reconciler} {cause : ManagerError} (new : r.gvk ∉ manager.kinds)
    (refused : register cluster manager r = .error cause) :
    ∃ explanation, cause = .discovery r.gvk explanation := by
  rw [register_eq] at refused
  split at refused
  · exact ⟨_, (Except.error.inj refused).symm⟩
  · rw [if_neg new] at refused
    contradiction

variable {binder : Binder Manager} {tuning : Tuning} {entries : List WatchEntry}
  {rs : List Reconciler}

/-- A run adds the controllers of its reconcilers to a manager, in order. -/
theorem controllers_of_run (registers : binder.register = register cluster)
    (run : BindingRun binder tuning manager entries rs last) :
    ∃ added, last = { manager with controllers := manager.controllers ++ added } ∧
      added.map (·.reconciler) = rs := by
  induction run with
  | done manager => exact ⟨[], by simp, rfl⟩
  | @step registry next last entry r entries rs built registered rest ih =>
      rw [registers] at registered
      obtain ⟨type, -, -, rfl⟩ := register_eq_ok_iff.mp registered
      obtain ⟨added, rfl, same⟩ := ih
      exact ⟨⟨r, type⟩ :: added, by simp, by simp [same]⟩

/-- The kinds of a manager after a run are those before it and those of the entries. -/
theorem kinds_of_run (registers : binder.register = register cluster)
    (run : BindingRun binder tuning manager entries rs last) :
    last.kinds = manager.kinds ++ entries.map (·.gvk) := by
  induction run with
  | done => simp
  | step built registered _ ih =>
      rw [registers] at registered
      obtain ⟨type, -, -, rfl⟩ := register_eq_ok_iff.mp registered
      rw [ih]
      simp [kinds, Controller.gvk, built.gvk]

end Manager

/-- The only ways in which binding a watch list that was read can fail: a chart that is not loaded,
a library chart, a selector without a text form, and a kind that the cluster does not know. -/
inductive ExpectedFailure : BindError → Prop where
  | chart (gvk : Gvk) (path : Path) (cause : ChartError) : ExpectedFailure (.chart gvk path cause)
  | libraryChart (gvk : Gvk) (name : String) :
      ExpectedFailure (.reconciler gvk (.libraryChart name))
  | selector (gvk : Gvk) (fault : SelectorError) :
      ExpectedFailure (.reconciler gvk (.selector fault))
  | discovery (gvk : Gvk) (cause : ClientError) :
      ExpectedFailure (.register gvk (.discovery gvk cause))

/-- An entry with a whole kind that no controller is for can only be refused in an expected way. -/
theorem expectedFailure_of_refuses {cluster : Cluster} {load : Path → Except ChartError Chart}
    {tuning : Tuning} {manager : Manager} {entry : WatchEntry} {e : BindError}
    (positive : 1 ≤ tuning.maxConcurrentReconciles) (version : entry.gvk.version ≠ "")
    (kind : entry.gvk.kind ≠ "") (limit : entry.maxConcurrentReconciles ≠ some 0)
    (new : entry.gvk ∉ manager.kinds)
    (refuses : Refuses ⟨load, Manager.register cluster⟩ tuning manager entry e) :
    ExpectedFailure e := by
  cases refuses with
  | chart unloaded => exact ExpectedFailure.chart _ _ _
  | @reconciler chart cause loaded unbuilt =>
      have someReconciles : (entry.draft tuning chart).maxConcurrentReconciles ≠ 0 := by
        change entry.maxConcurrentReconciles.getD tuning.maxConcurrentReconciles ≠ 0
        cases own : entry.maxConcurrentReconciles with
        | none => exact Nat.ne_of_gt positive
        | some count =>
            rintro rfl
            exact limit own
      rcases ReconcilerDraft.fault_of_build_eq_error rfl rfl version kind someReconciles unbuilt
        with ⟨-, rfl⟩ | ⟨fault, -, rfl⟩
      · exact ExpectedFailure.libraryChart _ _
      · exact ExpectedFailure.selector _ _
  | @register r cause built refused =>
      rw [← built.gvk] at new
      obtain ⟨explanation, rfl⟩ := Manager.refusal_of_register new refused
      rw [built.gvk]
      exact ExpectedFailure.discovery _ _

/-- The binder that registers controllers with a manager, whatever loads the charts. -/
def registering (load : Path → Except ChartError Chart) (cluster : Cluster) : Binder Manager where
  load := load
  register := Manager.register cluster

section Binding

variable {env : Environment} {content : String} {entries : List WatchEntry} {tuning : Tuning}
  {load : Path → Except ChartError Chart} {cluster : Cluster} {manager : Manager}

/-- A watch list that is read can only fail to bind in an expected way.  The run in front of the
failure has registered the kinds before it, and the kinds of the list are different. -/
theorem expectedFailure_of_bind (parsed : parseWatches env content = .ok entries)
    (positive : 1 ≤ tuning.maxConcurrentReconciles) (noKinds : manager.kinds = []) {e : BindError}
    (failed : ((registering load cluster).bind tuning manager entries).result = .error e) :
    ExpectedFailure e := by
  obtain ⟨checked, distinct⟩ := checked_of_parseWatches parsed
  rcases Binder.exists_run (registering load cluster) tuning manager entries with
    ⟨rs, last, run⟩ | ⟨before, entry, after, rs, last, cause, rfl, run, stopped⟩
  · rw [Binder.bind_of_run run] at failed
    contradiction
  · rw [Binder.bind_of_stopped run stopped] at failed
    obtain rfl : cause = e := Except.error.inj failed
    obtain ⟨version, kind, limit⟩ := checked entry (by simp)
    have new : entry.gvk ∉ last.kinds := by
      rw [Manager.kinds_of_run rfl run, noKinds, List.nil_append]
      rw [List.map_append, List.nodup_append] at distinct
      exact fun known => distinct.2.2 _ known _ (by simp) rfl
    exact expectedFailure_of_refuses positive version kind limit new
      (Binder.bindEntry_eq_error_iff.mp stopped)

/-- A watch list that is read and bound has its controllers, one for each entry. -/
theorem controllers_of_bind (parsed : parseWatches env content = .ok entries)
    (fresh : manager.controllers = []) {n : Nat}
    (bound : ((registering load cluster).bind tuning manager entries).result = .ok n) :
    n = entries.length ∧ ∃ controllers,
      ((registering load cluster).bind tuning manager entries).registry =
        { manager with controllers := controllers } ∧
      controllers.length = n ∧
      List.Forall₂ (fun entry controller => IsReconcilerOf (registering load cluster) tuning entry
        controller.reconciler) entries controllers ∧
      (controllers.map Controller.gvk).Nodup := by
  obtain ⟨-, distinct⟩ := checked_of_parseWatches parsed
  rcases Binder.exists_run (registering load cluster) tuning manager entries with
    ⟨rs, last, run⟩ | ⟨before, entry, after, rs, last, cause, rfl, run, stopped⟩
  · rw [Binder.bind_of_run run] at bound ⊢
    obtain rfl : entries.length = n := by simpa [Binding.result, run.length_eq] using bound
    obtain ⟨added, rfl, same⟩ := Manager.controllers_of_run rfl run
    subst same
    have registered : added.map Controller.gvk = entries.map (·.gvk) := by
      simpa [Manager.kinds, fresh] using Manager.kinds_of_run rfl run
    refine ⟨rfl, added, by simp [fresh], by simpa using run.length_eq, ?_, ?_⟩
    · simpa using run.forall₂
    · rw [registered]
      exact distinct
  · rw [Binder.bind_of_stopped run stopped] at bound
    contradiction

/-- A watch list that is read binds to a manager without controllers, or fails in an expected way.
If it binds, the manager has one controller for each entry, in order and with different kinds.  This
applies with the tuning of every planned run. -/
theorem bind_of_parseWatches (parsed : parseWatches env content = .ok entries)
    (positive : 1 ≤ tuning.maxConcurrentReconciles) (load : Path → Except ChartError Chart)
    (cluster : Cluster) (fresh : manager.controllers = []) :
    (∀ e, ((registering load cluster).bind tuning manager entries).result = .error e →
      ExpectedFailure e) ∧
    (∀ n, ((registering load cluster).bind tuning manager entries).result = .ok n →
      n = entries.length ∧ ∃ controllers,
        ((registering load cluster).bind tuning manager entries).registry =
          { manager with controllers := controllers } ∧
        controllers.length = n ∧
        List.Forall₂ (fun entry controller => IsReconcilerOf (registering load cluster) tuning entry
          controller.reconciler) entries controllers ∧
        (controllers.map Controller.gvk).Nodup) ∧
    ∀ sources flags plan, planRun sources flags = .ok plan →
      1 ≤ plan.tuning.maxConcurrentReconciles := by
  have noKinds : manager.kinds = [] := by simp [Manager.kinds, fresh]
  refine ⟨?_, ?_, ?_⟩
  · intro e failed
    exact expectedFailure_of_bind parsed positive noKinds failed
  · intro n bound
    exact controllers_of_bind parsed fresh bound
  · intro sources flags plan planned
    exact positive_of_planRun planned

end Binding

/-- A watch list for two kinds. -/
def exampleWatches : String :=
  "- version: v1\n  kind: Site\n  chart: app\n- version: v1\n  kind: Page\n  chart: app\n"

/-- A cluster that knows every kind and has no resources. -/
def exampleCluster : Cluster :=
  ⟨fun gvk => .ok ⟨gvk, gvk.kind, true⟩, fun _ => .ok []⟩

/-- The binder of the example, for which there is a chart at every path. -/
def exampleBinder : Binder Manager :=
  registering (fun path => .ok { metadata := { name := path.display } }) exampleCluster

/-- A manager without controllers. -/
def exampleManager : Manager :=
  { options := { cache := .scoped none } }

/-- The watch list of the example gets its two controllers. -/
theorem bind_of_parseWatches_exampleWatches :
    ∃ entries, parseWatches (fun _ => none) exampleWatches = .ok entries ∧
      (exampleBinder.bind ⟨1, Duration.zero⟩ exampleManager entries).result = .ok 2 ∧
      2 = entries.length ∧
      ∃ controllers,
        (exampleBinder.bind ⟨1, Duration.zero⟩ exampleManager entries).registry =
          { exampleManager with controllers := controllers } ∧
        controllers.length = 2 ∧
        List.Forall₂ (fun entry controller => IsReconcilerOf exampleBinder ⟨1, Duration.zero⟩ entry
          controller.reconciler) entries controllers ∧
        (controllers.map Controller.gvk).Nodup := by
  obtain ⟨entries, parsed⟩ :
      ∃ entries, parseWatches (fun _ => none) exampleWatches = .ok entries :=
    exists_eq_ok_of_isOk (by decide +kernel)
  have computed : (parseWatches (fun _ => none) exampleWatches).toOption.map (fun entries =>
      (exampleBinder.bind ⟨1, Duration.zero⟩ exampleManager entries).result.toOption) =
        some (some 2) := by
    decide +kernel
  rw [parsed] at computed
  have bound := toOption_eq_some_iff.mp (Option.some.inj computed)
  exact ⟨entries, parsed, bound,
    (bind_of_parseWatches parsed (by decide) exampleBinder.load exampleCluster rfl).2.1 2 bound⟩

end ChartOperator
