import ChartOperator.Log.Event
import ChartOperator.Metrics
import ChartOperator.Reconciler.Basic
import ChartOperator.Resource.Object

/-!
# Reconciling a resource

A pass over one resource: what happens next, what is logged, and what is counted.  A resource
without a name cannot be reconciled; after such a failure the error policy decides what happens
next.
-/

namespace ChartOperator

/-- Why a resource cannot be reconciled. -/
inductive ReconcileError where
  | noName
  deriving DecidableEq

/-- The wording of a reconcile error. -/
def ReconcileError.message : ReconcileError → String
  | .noName => "object has no name"

/-- The outcome of a pass. -/
structure Pass where
  action : Action
  event : Event
  metrics : Metrics

/-- A computation that counts and may fail.  What has been counted before stays counted. -/
abbrev Counting : Type → Type := ExceptT ReconcileError (StateM Metrics)

/-- What comes out of a computation, and the metrics after it. -/
def Counting.apply {α : Type} (counting : Counting α) (metrics : Metrics) :
    Except ReconcileError α × Metrics :=
  counting.run.run metrics

namespace Reconciler

/-- The event of a pass over a resource with a name. -/
def passEvent (r : Reconciler) (object : ResourceObject) (name : String) : Event :=
  let key : ReleaseKey := ⟨r.gvk.kind, object.namespaceText, name⟩
  if object.deleting then .uninstallRequested key
  else .reconciling key r.chart.name r.chart.version

/-- Tries to reconcile a resource, and gives what happens next and what is logged. -/
def attempt (r : Reconciler) (object : ResourceObject) : Counting (Action × Event) := do
  let some name := object.name | throw .noName
  modify fun metrics => metrics.observe (.success r.gvk.kind)
  return (r.requeueAction, r.passEvent object name)

/-- Reconciles a resource. -/
def reconcile (r : Reconciler) (object : ResourceObject) (metrics : Metrics) :
    Except ReconcileError Pass :=
  match (r.attempt object).apply metrics with
  | (.ok (action, event), next) => .ok ⟨action, event, next⟩
  | (.error cause, _) => .error cause

/-- The time after which a failed reconcile is tried again. -/
def retryDelay : Duration := Duration.ofSeconds 60

/-- Applies the error policy after a failed reconcile. -/
def recover (r : Reconciler) (object : ResourceObject) (cause : ReconcileError)
    (metrics : Metrics) : Pass :=
  ⟨.requeue retryDelay, .reconcileFailed r.gvk.kind object.nameText cause.message,
    metrics.observe (.failure r.gvk.kind)⟩

/-- Reconciles a resource and applies the error policy if that fails. -/
def handle (r : Reconciler) (object : ResourceObject) (metrics : Metrics) : Pass :=
  match (r.attempt object).apply metrics with
  | (.ok (action, event), next) => ⟨action, event, next⟩
  | (.error cause, next) => r.recover object cause next

theorem apply_attempt (r : Reconciler) (object : ResourceObject) (metrics : Metrics) :
    (r.attempt object).apply metrics =
      match object.name with
      | none => (.error .noName, metrics)
      | some name =>
          (.ok (r.requeueAction, r.passEvent object name),
            metrics.observe (.success r.gvk.kind)) := by
  unfold attempt
  cases object.name with
  | none => rfl
  | some name => rfl

end Reconciler

/-- A call that may count something. -/
inductive Call where
  | reconcile (r : Reconciler) (object : ResourceObject)
  | recover (r : Reconciler) (object : ResourceObject) (cause : ReconcileError)
  | observe (key : CounterKey)

/-- The metrics after a call. -/
def Metrics.after (metrics : Metrics) : Call → Metrics
  | .reconcile r object => ((r.attempt object).apply metrics).2
  | .recover r object cause => (r.recover object cause metrics).metrics
  | .observe key => metrics.observe key

end ChartOperator
