import ChartOperator.Binding
import ChartOperator.Proofs.Building
import Mathlib.Data.List.Forall2

/-!
# Runs of the binding

Binding goes through a watch list from the front.  The entries that are bound form a run: each has
its reconciler, and the registry takes these reconcilers one after the other.  Either the run
reaches the end of the list, or it stops in front of the first entry that cannot be bound.
-/

namespace ChartOperator

/-- The reconciler that an entry asks for: it has the parts of the entry, the chart from the
directory of the entry, and the tuning where the entry sets nothing. -/
structure IsReconcilerOf {σ : Type} (binder : Binder σ) (tuning : Tuning) (entry : WatchEntry)
    (r : Reconciler) : Prop where
  chart : binder.load entry.chartDir = .ok r.chart
  gvk : r.gvk = entry.gvk
  overrideValues : r.overrideValues = entry.overrideValues
  selector : r.selector = entry.selector
  watchDependentResources : r.watchDependentResources = entry.watchDependentResources
  maxConcurrentReconciles : r.maxConcurrentReconciles =
    entry.maxConcurrentReconciles.getD tuning.maxConcurrentReconciles
  reconcilePeriod : r.reconcilePeriod = entry.reconcilePeriod.getD tuning.reconcilePeriod
  built : (entry.draft tuning r.chart).build = .ok r

/-- Why an entry cannot be bound to a registry: its chart is not loaded, or its reconciler is not
built, or its reconciler is refused.  The error names the stage and the kind of the entry. -/
inductive Refuses {σ : Type} (binder : Binder σ) (tuning : Tuning) (registry : σ)
    (entry : WatchEntry) : BindError → Prop where
  | chart {cause : ChartError} (unloaded : binder.load entry.chartDir = .error cause) :
      Refuses binder tuning registry entry (.chart entry.gvk entry.chartDir cause)
  | reconciler {chart : Chart} {cause : BuildError}
      (loaded : binder.load entry.chartDir = .ok chart)
      (unbuilt : (entry.draft tuning chart).build = .error cause) :
      Refuses binder tuning registry entry (.reconciler entry.gvk cause)
  | register {r : Reconciler} {cause : ManagerError} (built : IsReconcilerOf binder tuning entry r)
      (refused : binder.register registry r = .error cause) :
      Refuses binder tuning registry entry (.register entry.gvk cause)

/-- A run of the binding: each entry has its reconciler, and the registry takes them in order. -/
inductive BindingRun {σ : Type} (binder : Binder σ) (tuning : Tuning) :
    σ → List WatchEntry → List Reconciler → σ → Prop where
  | done (registry : σ) : BindingRun binder tuning registry [] [] registry
  | step {registry next last : σ} {entry : WatchEntry} {r : Reconciler}
      {entries : List WatchEntry} {rs : List Reconciler}
      (built : IsReconcilerOf binder tuning entry r)
      (registered : binder.register registry r = .ok next)
      (rest : BindingRun binder tuning next entries rs last) :
      BindingRun binder tuning registry (entry :: entries) (r :: rs) last

namespace BindingRun

variable {σ : Type} {binder : Binder σ} {tuning : Tuning} {registry last : σ}
  {entries : List WatchEntry} {rs : List Reconciler}

theorem forall₂ (run : BindingRun binder tuning registry entries rs last) :
    List.Forall₂ (IsReconcilerOf binder tuning) entries rs := by
  induction run with
  | done => exact List.Forall₂.nil
  | step built _ _ ih => exact List.Forall₂.cons built ih

/-- What is reported about a run: each of its entries with its reconciler. -/
theorem forall₂_configured (run : BindingRun binder tuning registry entries rs last) :
    List.Forall₂ (fun entry watch => ∃ r, IsReconcilerOf binder tuning entry r ∧
        watch = entry.configured r) entries (List.zipWith WatchEntry.configured entries rs) := by
  induction run with
  | done => exact List.Forall₂.nil
  | step built _ _ ih => exact List.Forall₂.cons ⟨_, built, rfl⟩ ih

/-- The registry of a run is the one that takes its reconcilers in order. -/
theorem foldlM_register (run : BindingRun binder tuning registry entries rs last) :
    rs.foldlM binder.register registry = .ok last := by
  induction run with
  | done => rfl
  | step _ registered _ ih =>
      rw [List.foldlM_cons, registered]
      exact ih

theorem length_eq (run : BindingRun binder tuning registry entries rs last) :
    rs.length = entries.length :=
  run.forall₂.length_eq.symm

end BindingRun

namespace Binder

variable {σ : Type} {binder : Binder σ} {tuning : Tuning} {registry : σ}

theorem isReconcilerOf_iff {entry : WatchEntry} {r : Reconciler} :
    IsReconcilerOf binder tuning entry r ↔ binder.reconciler tuning entry = .ok r := by
  constructor
  · intro isReconciler
    rw [reconciler, isReconciler.chart]
    simp [isReconciler.built]
  · intro reconciled
    unfold reconciler at reconciled
    split at reconciled
    · contradiction
    · rename_i chart loaded
      split at reconciled
      · contradiction
      · rename_i built' built
        obtain rfl := Except.ok.inj reconciled
        have builds := ReconcilerDraft.build_eq_ok_iff.mp built
        have sameChart : chart = built'.chart := Option.some.inj builds.chart
        subst sameChart
        exact ⟨loaded, (Option.some.inj builds.gvk).symm, builds.overrideValues, builds.selector,
          builds.watchDependentResources, builds.maxConcurrentReconciles, builds.reconcilePeriod,
          built⟩

/-- An entry is bound exactly when its reconciler is built and registered. -/
theorem bindEntry_eq_ok_iff {entry : WatchEntry} {next : σ} {configured : ConfiguredWatch} :
    binder.bindEntry tuning registry entry = .ok (next, configured) ↔
      ∃ r, IsReconcilerOf binder tuning entry r ∧ binder.register registry r = .ok next ∧
        configured = entry.configured r := by
  simp only [isReconcilerOf_iff]
  unfold bindEntry
  cases binder.reconciler tuning entry with
  | error e => simp
  | ok r =>
      cases registered : binder.register registry r with
      | error cause => simp [registered]
      | ok next' =>
          simp only [Except.ok.injEq, Prod.mk.injEq, exists_eq_left', registered]
          exact and_congr_right fun _ => eq_comm

/-- An entry cannot be bound exactly when it is refused, for the same reason. -/
theorem bindEntry_eq_error_iff {entry : WatchEntry} {e : BindError} :
    binder.bindEntry tuning registry entry = .error e ↔
      Refuses binder tuning registry entry e := by
  constructor
  · intro failed
    unfold bindEntry at failed
    split at failed
    · rename_i cause unreconciled
      obtain rfl := Except.error.inj failed
      unfold reconciler at unreconciled
      split at unreconciled
      · rename_i unloaded
        obtain rfl := Except.error.inj unreconciled
        exact Refuses.chart unloaded
      · rename_i loaded
        split at unreconciled
        · rename_i unbuilt
          obtain rfl := Except.error.inj unreconciled
          exact Refuses.reconciler loaded unbuilt
        · contradiction
    · rename_i r reconciled
      split at failed
      · rename_i refused
        obtain rfl := Except.error.inj failed
        exact Refuses.register (isReconcilerOf_iff.mpr reconciled) refused
      · contradiction
  · intro refuses
    cases refuses with
    | chart unloaded => simp [bindEntry, reconciler, unloaded]
    | reconciler loaded unbuilt => simp [bindEntry, reconciler, loaded, unbuilt]
    | register built refused => simp [bindEntry, isReconcilerOf_iff.mp built, refused]

/-- Of the charts, binding an entry loads only the one of this entry. -/
theorem bindEntry_congr {load : Path → Except ChartError Chart} {entry : WatchEntry}
    (same : load entry.chartDir = binder.load entry.chartDir) :
    { binder with load := load }.bindEntry tuning registry entry =
      binder.bindEntry tuning registry entry := by
  simp [bindEntry, reconciler, same]

/-- Binding goes along a run.  What is bound behind the run starts from the registry of the run, and
what was bound on the run is reported first. -/
theorem bind_append {last : σ} {before : List WatchEntry} {rs : List Reconciler}
    (run : BindingRun binder tuning registry before rs last) (after : List WatchEntry) :
    binder.bind tuning registry (before ++ after) =
      { binder.bind tuning last after with
        configured := List.zipWith WatchEntry.configured before rs ++
          (binder.bind tuning last after).configured } := by
  induction run with
  | done => rfl
  | @step registry next last entry r entries rs built registered rest ih =>
      have bound : binder.bindEntry tuning registry entry = .ok (next, entry.configured r) :=
        bindEntry_eq_ok_iff.mpr ⟨r, built, registered, rfl⟩
      rw [List.cons_append, bind, bound]
      simp [ih]

/-- A run that reaches the end of a watch list binds all of it. -/
theorem bind_of_run {last : σ} {entries : List WatchEntry} {rs : List Reconciler}
    (run : BindingRun binder tuning registry entries rs last) :
    binder.bind tuning registry entries =
      { registry := last, configured := List.zipWith WatchEntry.configured entries rs } := by
  simpa [bind] using bind_append run []

/-- A run in front of an entry that cannot be bound is all that is bound. -/
theorem bind_of_stopped {last : σ} {before : List WatchEntry} {rs : List Reconciler}
    {entry : WatchEntry} {e : BindError} (run : BindingRun binder tuning registry before rs last)
    (failed : binder.bindEntry tuning last entry = .error e) (after : List WatchEntry) :
    binder.bind tuning registry (before ++ entry :: after) =
      { registry := last
        configured := List.zipWith WatchEntry.configured before rs
        failure := some e } := by
  simp [bind_append run, bind, failed]

/-- Either a run binds a whole watch list, or it stops in front of an entry that cannot be bound. -/
theorem exists_run (binder : Binder σ) (tuning : Tuning) (registry : σ)
    (entries : List WatchEntry) :
    (∃ rs last, BindingRun binder tuning registry entries rs last) ∨
      ∃ before entry after rs last e, entries = before ++ entry :: after ∧
        BindingRun binder tuning registry before rs last ∧
        binder.bindEntry tuning last entry = .error e := by
  induction entries generalizing registry with
  | nil => exact Or.inl ⟨[], registry, BindingRun.done registry⟩
  | cons entry rest ih =>
      cases bound : binder.bindEntry tuning registry entry with
      | error e => exact Or.inr ⟨[], entry, rest, [], registry, e, rfl, BindingRun.done _, bound⟩
      | ok result =>
          obtain ⟨next, configured⟩ := result
          obtain ⟨r, built, registered, -⟩ := bindEntry_eq_ok_iff.mp bound
          rcases ih next with
            ⟨rs, last, run⟩ | ⟨before, stopped, after, rs, last, e, rfl, run, failed⟩
          · exact Or.inl ⟨r :: rs, last, BindingRun.step built registered run⟩
          · exact Or.inr ⟨entry :: before, stopped, after, r :: rs, last, e, rfl,
              BindingRun.step built registered run, failed⟩

/-- If a watch list is bound, a run reaches its end. -/
theorem exists_run_of_bind {entries : List WatchEntry} {n : Nat}
    (bound : (binder.bind tuning registry entries).result = .ok n) :
    n = entries.length ∧ ∃ rs last, BindingRun binder tuning registry entries rs last := by
  rcases exists_run binder tuning registry entries with
    ⟨rs, last, run⟩ | ⟨before, entry, after, rs, last, e, rfl, run, failed⟩
  · rw [bind_of_run run] at bound
    exact ⟨by simpa [Binding.result, run.length_eq] using bound.symm, rs, last, run⟩
  · rw [bind_of_stopped run failed after] at bound
    contradiction

/-- A run only depends on the charts of its own entries. -/
theorem run_congr {load : Path → Except ChartError Chart} {last : σ} {entries : List WatchEntry}
    {rs : List Reconciler} (run : BindingRun binder tuning registry entries rs last)
    (same : ∀ entry ∈ entries, load entry.chartDir = binder.load entry.chartDir) :
    BindingRun { binder with load := load } tuning registry entries rs last := by
  induction run with
  | done registry => exact BindingRun.done registry
  | step built registered _ ih =>
      have rest := ih fun entry mem => same entry (List.mem_cons_of_mem _ mem)
      refine BindingRun.step ?_ registered rest
      exact { built with chart := (same _ List.mem_cons_self).trans built.chart }

/-- On a run no entry is refused by the registry that it meets. -/
theorem not_refuses_of_run {last : σ} {entries : List WatchEntry} {rs : List Reconciler}
    (run : BindingRun binder tuning registry entries rs last) {j : Nat} {entry : WatchEntry}
    (at_j : entries[j]? = some entry) :
    ∃ met, (rs.take j).foldlM binder.register registry = .ok met ∧
      ∀ e, ¬ Refuses binder tuning met entry e := by
  induction run generalizing j with
  | done => simp at at_j
  | @step registry next last first r entries rs built registered _ ih =>
      cases j with
      | zero =>
          obtain rfl : first = entry := by simpa using at_j
          refine ⟨registry, rfl, fun e refuses => ?_⟩
          have bound : binder.bindEntry tuning registry first = .ok (next, first.configured r) :=
            bindEntry_eq_ok_iff.mpr ⟨r, built, registered, rfl⟩
          rw [bindEntry_eq_error_iff.mpr refuses] at bound
          contradiction
      | succ j =>
          obtain ⟨met, reached, accepted⟩ := ih (by simpa using at_j)
          refine ⟨met, ?_, accepted⟩
          rw [List.take_succ_cons, List.foldlM_cons, registered]
          exact reached

/-- Binding ends with an error at an entry: this is the first entry that is refused, and what is
bound are the reconcilers of the entries before it.  Neither the entries behind it nor their charts
make a difference. -/
structure StopsAt (binder : Binder σ) (tuning : Tuning) (registry : σ) (entries : List WatchEntry)
    (i : Nat) (entry : WatchEntry) (rs : List Reconciler) (e : BindError) : Prop where
  at_i : entries[i]? = some entry
  refuses : Refuses binder tuning (binder.bind tuning registry entries).registry entry e
  built : List.Forall₂ (IsReconcilerOf binder tuning) (entries.take i) rs
  first : ∀ j earlier, j < i → entries[j]? = some earlier →
    ∃ met, (rs.take j).foldlM binder.register registry = .ok met ∧
      ∀ cause, ¬ Refuses binder tuning met earlier cause
  registered :
    rs.foldlM binder.register registry = .ok (binder.bind tuning registry entries).registry
  configured : (binder.bind tuning registry entries).configured =
    List.zipWith WatchEntry.configured (entries.take i) rs
  count : (binder.bind tuning registry entries).configured.length = i
  onlyTried : ∀ load others,
    (∀ tried ∈ entries.take (i + 1), load tried.chartDir = binder.load tried.chartDir) →
      { binder with load := load }.bind tuning registry (entries.take (i + 1) ++ others) =
        binder.bind tuning registry entries

theorem stopsAt_of_run {last : σ} {before : List WatchEntry} {rs : List Reconciler}
    {entry : WatchEntry} {e : BindError} (run : BindingRun binder tuning registry before rs last)
    (failed : binder.bindEntry tuning last entry = .error e) (after : List WatchEntry) :
    StopsAt binder tuning registry (before ++ entry :: after) before.length entry rs e := by
  have bound := bind_of_stopped run failed after
  have tried : (before ++ entry :: after).take (before.length + 1) = before ++ [entry] := by
    rw [List.take_length_add_append]
    rfl
  constructor
  · simp
  · rw [bound]
    exact bindEntry_eq_error_iff.mp failed
  · simpa using run.forall₂
  · intro j earlier less at_j
    rw [List.getElem?_append_left less] at at_j
    exact not_refuses_of_run run at_j
  · rw [bound]
    exact run.foldlM_register
  · simp [bound]
  · simp [bound, run.length_eq]
  · intro load others same
    rw [tried] at same ⊢
    have sameRun := run_congr run fun bound mem => same bound (List.mem_append_left _ mem)
    have sameFailed := (bindEntry_congr (same entry (by simp))).trans failed
    rw [bound]
    simpa using bind_of_stopped sameRun sameFailed others

/-- Binding binds every entry in order, or it ends at the first entry that is refused.  In the first
case the registry has taken one reconciler for each entry. -/
theorem bind_outcome (binder : Binder σ) (tuning : Tuning) (registry : σ)
    (entries : List WatchEntry) :
    (∀ n, (binder.bind tuning registry entries).result = .ok n →
      n = entries.length ∧ ∃ rs, List.Forall₂ (IsReconcilerOf binder tuning) entries rs ∧
        rs.foldlM binder.register registry = .ok (binder.bind tuning registry entries).registry ∧
        (binder.bind tuning registry entries).configured =
          List.zipWith WatchEntry.configured entries rs) ∧
    ∀ e, (binder.bind tuning registry entries).result = .error e →
      ∃ i entry rs, StopsAt binder tuning registry entries i entry rs e := by
  rcases exists_run binder tuning registry entries with
    ⟨rs, last, run⟩ | ⟨before, entry, after, rs, last, e, rfl, run, failed⟩
  · rw [bind_of_run run]
    constructor
    · intro n bound
      refine ⟨?_, rs, run.forall₂, run.foldlM_register, rfl⟩
      simpa [Binding.result, run.length_eq] using bound.symm
    · intro e stopped
      contradiction
  · constructor
    · intro n bound
      rw [bind_of_stopped run failed after] at bound
      contradiction
    · intro cause stopped
      rw [bind_of_stopped run failed after] at stopped
      obtain rfl : e = cause := Except.error.inj stopped
      exact ⟨before.length, entry, rs, stopsAt_of_run run failed after⟩

/-- A registry that keeps all reconcilers, and charts at one path only. -/
def recorder : Binder (List Reconciler) where
  load path :=
    if path = Path.ofString "app" then .ok { metadata := { name := "app" } }
    else .error (.notFound path)
  register rs r := .ok (rs ++ [r])

/-- Three entries, of which the second has no chart. -/
def exampleEntries : List WatchEntry :=
  [("Site", "app"), ("Page", "missing"), ("Post", "app")].map fun (kind, chart) =>
    { gvk := ⟨"", "v1", kind⟩
      chartDir := Path.ofString chart
      watchDependentResources := true
      overrideValues := []
      selector := {}
      reconcilePeriod := some Duration.zero
      maxConcurrentReconciles := none }

/-- Only the first entry of the example is bound, and this is reported once. -/
theorem bind_outcome_exampleEntries :
    ∃ e, (recorder.bind ⟨4, Duration.ofSeconds 60⟩ [] exampleEntries).result = .error e ∧
      ∃ entry rs,
        StopsAt recorder ⟨4, Duration.ofSeconds 60⟩ [] exampleEntries 1 entry rs e := by
  have stopped : (recorder.bind ⟨4, Duration.ofSeconds 60⟩ [] exampleEntries).result =
      .error (.chart ⟨"", "v1", "Page"⟩ (Path.ofString "missing")
        (.notFound (Path.ofString "missing"))) := by
    rfl
  rcases (bind_outcome recorder ⟨4, Duration.ofSeconds 60⟩ [] exampleEntries).2 _ stopped with
    ⟨i, entry, rs, stopsAt⟩
  obtain rfl : 1 = i := stopsAt.count
  exact ⟨_, stopped, entry, rs, stopsAt⟩

end Binder

end ChartOperator
