import ChartOperator.Chart.Error
import ChartOperator.Manager.Error
import ChartOperator.Reconciler.Draft
import ChartOperator.Log.Event
import ChartOperator.Watch.Entry

/-!
# Binding watches to controllers

Each entry of a watch list becomes a controller: its chart is loaded, its reconciler is built, and
the reconciler is registered.  The entries are bound in order, and the first that fails ends the
binding; what was registered before it stays registered.
-/

namespace ChartOperator

/-- Settings for the entries that have none of their own. -/
structure Tuning where
  maxConcurrentReconciles : Nat
  reconcilePeriod : Duration
  deriving DecidableEq

/-- Why an entry cannot be bound. -/
inductive BindError where
  | chart (gvk : Gvk) (path : Path) (cause : ChartError)
  | reconciler (gvk : Gvk) (cause : BuildError)
  | register (gvk : Gvk) (cause : ManagerError)
  deriving DecidableEq

/-- The wording of a bind error. -/
def BindError.message : BindError → String
  | .chart gvk path cause =>
      s!"unable to load chart {path.display} for {gvk.label}: {cause.message}"
  | .reconciler gvk cause => s!"unable to create reconciler for {gvk.label}: {cause.message}"
  | .register gvk cause => s!"unable to create controller for {gvk.label}: {cause.message}"

/-- What binding needs: charts by their paths, and a registry in some state. -/
structure Binder (σ : Type) where
  load : Path → Except ChartError Chart
  register : σ → Reconciler → Except ManagerError σ

/-- What binding leads to. -/
structure Binding (σ : Type) where
  /-- The registry with everything that was registered. -/
  registry : σ
  /-- The entries that were bound. -/
  configured : List ConfiguredWatch := []
  failure : Option BindError := none

/-- The number of controllers, if every entry was bound. -/
def Binding.result {σ : Type} (binding : Binding σ) : Except BindError Nat :=
  match binding.failure with
  | none => .ok binding.configured.length
  | some e => .error e

/-- The parts of the reconciler for an entry. -/
def WatchEntry.draft (entry : WatchEntry) (tuning : Tuning) (chart : Chart) : ReconcilerDraft where
  chart := some chart
  gvk := some entry.gvk
  overrideValues := entry.overrideValues
  selector := entry.selector
  watchDependentResources := entry.watchDependentResources
  maxConcurrentReconciles := entry.maxConcurrentReconciles.getD tuning.maxConcurrentReconciles
  reconcilePeriod := entry.reconcilePeriod.getD tuning.reconcilePeriod

/-- What is reported about the reconciler of an entry. -/
def WatchEntry.configured (entry : WatchEntry) (r : Reconciler) : ConfiguredWatch where
  gvk := entry.gvk
  chartPath := entry.chartDir
  chart := r.chart.name
  maxConcurrentReconciles := r.maxConcurrentReconciles
  reconcilePeriod := r.reconcilePeriod

namespace Binder

variable {σ : Type}

/-- The reconciler for an entry. -/
def reconciler (binder : Binder σ) (tuning : Tuning) (entry : WatchEntry) :
    Except BindError Reconciler :=
  match binder.load entry.chartDir with
  | .error cause => .error (.chart entry.gvk entry.chartDir cause)
  | .ok chart =>
      match (entry.draft tuning chart).build with
      | .error cause => .error (.reconciler entry.gvk cause)
      | .ok r => .ok r

/-- Binds an entry. -/
def bindEntry (binder : Binder σ) (tuning : Tuning) (registry : σ) (entry : WatchEntry) :
    Except BindError (σ × ConfiguredWatch) :=
  match binder.reconciler tuning entry with
  | .error e => .error e
  | .ok r =>
      match binder.register registry r with
      | .error cause => .error (.register entry.gvk cause)
      | .ok next => .ok (next, entry.configured r)

/-- Binds the entries of a watch list. -/
def bind (binder : Binder σ) (tuning : Tuning) (registry : σ) : List WatchEntry → Binding σ
  | [] => { registry := registry }
  | entry :: rest =>
      match binder.bindEntry tuning registry entry with
      | .error e => { registry := registry, failure := some e }
      | .ok (next, configured) =>
          let binding := binder.bind tuning next rest
          { binding with configured := configured :: binding.configured }

end Binder

end ChartOperator
