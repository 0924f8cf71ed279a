import ChartOperator.Reconciler.Basic

/-!
# Building reconcilers

A draft collects what a reconciler consists of.  Every part can be set any number of times, and the
last value counts; the chart and the kind have to be set.
-/

namespace ChartOperator

/-- The parts of a reconciler that is not built yet. -/
structure ReconcilerDraft where
  chart : Option Chart := none
  gvk : Option Gvk := none
  overrideValues : StringMap := []
  selector : LabelSelector := {}
  watchDependentResources : Bool := true
  maxConcurrentReconciles : Nat := 1
  reconcilePeriod : Duration := Duration.zero
  installAnnotations : List String := LifecycleAnnotations.install
  upgradeAnnotations : List String := LifecycleAnnotations.upgrade
  uninstallAnnotations : List String := LifecycleAnnotations.uninstall

/-- A value for a part of a reconciler. -/
inductive Setting where
  | chart (chart : Chart)
  | gvk (gvk : Gvk)
  | overrideValues (values : StringMap)
  | selector (selector : LabelSelector)
  | watchDependentResources (watch : Bool)
  | maxConcurrentReconciles (limit : Nat)
  | reconcilePeriod (period : Duration)
  | installAnnotations (names : List String)
  | upgradeAnnotations (names : List String)
  | uninstallAnnotations (names : List String)

/-- Why no reconciler can be built. -/
inductive BuildError where
  | noChart
  | noGvk
  /-- The version or the kind is empty. -/
  | incompleteGvk
  /-- A library chart cannot be installed. -/
  | libraryChart (name : String)
  | zeroConcurrency
  | selector (cause : SelectorError)
  deriving DecidableEq

/-- The wording of a build error. -/
def BuildError.message : BuildError → String
  | .noChart => "a chart is required"
  | .noGvk => "a group/version/kind is required"
  | .incompleteGvk => "group/version/kind must set version and kind"
  | .libraryChart name => s!"chart {name} is a library chart and cannot be installed"
  | .zeroConcurrency => "max concurrent reconciles must be at least 1"
  | .selector cause => s!"invalid selector: {cause.reason}"

namespace ReconcilerDraft

/-- Sets a part. -/
def set (draft : ReconcilerDraft) : Setting → ReconcilerDraft
  | .chart chart => { draft with chart := some chart }
  | .gvk gvk => { draft with gvk := some gvk }
  | .overrideValues values => { draft with overrideValues := values }
  | .selector selector => { draft with selector := selector }
  | .watchDependentResources watch => { draft with watchDependentResources := watch }
  | .maxConcurrentReconciles limit => { draft with maxConcurrentReconciles := limit }
  | .reconcilePeriod period => { draft with reconcilePeriod := period }
  | .installAnnotations names => { draft with installAnnotations := names }
  | .upgradeAnnotations names => { draft with upgradeAnnotations := names }
  | .uninstallAnnotations names => { draft with uninstallAnnotations := names }

/-- The draft after a sequence of settings. -/
def ofSettings (settings : List Setting) : ReconcilerDraft :=
  settings.foldl set {}

/-- Builds the reconciler of a draft.  Of several faults the first in the order of these checks is
the error. -/
def build (draft : ReconcilerDraft) : Except BuildError Reconciler :=
  match draft.chart, draft.gvk with
  | none, _ => .error .noChart
  | some _, none => .error .noGvk
  | some chart, some gvk =>
      if gvk.version = "" ∨ gvk.kind = "" then .error .incompleteGvk
      else if chart.isLibrary then .error (.libraryChart chart.name)
      else if draft.maxConcurrentReconciles = 0 then .error .zeroConcurrency
      else
        match draft.selector.render with
        | .error cause => .error (.selector cause)
        | .ok labelSelector =>
            .ok {
              chart := chart
              gvk := gvk
              overrideValues := draft.overrideValues
              selector := draft.selector
              labelSelector := labelSelector
              watchDependentResources := draft.watchDependentResources
              maxConcurrentReconciles := draft.maxConcurrentReconciles
              reconcilePeriod := draft.reconcilePeriod
              installAnnotations := draft.installAnnotations
              upgradeAnnotations := draft.upgradeAnnotations
              uninstallAnnotations := draft.uninstallAnnotations }

end ReconcilerDraft

end ChartOperator
