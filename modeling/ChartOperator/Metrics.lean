import ChartOperator.Build

/-!
# Metrics

How often the resources of each kind were reconciled and with which result, and the text that
monitoring reads.  A text consists of families; a family has a line for its purpose, one for its
type and one for each of its samples, and a family without samples is left out.
-/

namespace ChartOperator

/-- What a counter counts: the reconciles of one kind with one result. -/
structure CounterKey where
  kind : String
  result : String
  deriving DecidableEq

namespace CounterKey

/-- Whether the counter of one key is listed before that of another. -/
def Before (a b : CounterKey) : Prop :=
  a.kind < b.kind ∨ a.kind = b.kind ∧ a.result < b.result

instance (a b : CounterKey) : Decidable (a.Before b) :=
  inferInstanceAs (Decidable (_ ∨ _))

/-- The reconciles of a kind that succeeded. -/
def success (kind : String) : CounterKey := ⟨kind, "success"⟩

/-- The reconciles of a kind that failed. -/
def failure (kind : String) : CounterKey := ⟨kind, "error"⟩

end CounterKey

/-- The counters, in ascending order of their keys.  What was never counted has no counter. -/
structure Metrics where
  counters : List (CounterKey × Nat) := []
  deriving DecidableEq

namespace Metrics

/-- Adds one to the counter of a key. -/
def increment (key : CounterKey) : List (CounterKey × Nat) → List (CounterKey × Nat)
  | [] => [(key, 1)]
  | (k, n) :: rest =>
      if key.Before k then (key, 1) :: (k, n) :: rest
      else if key = k then (k, n + 1) :: rest
      else (k, n) :: increment key rest

/-- Counts one reconcile. -/
def observe (metrics : Metrics) (key : CounterKey) : Metrics :=
  ⟨increment key metrics.counters⟩

/-- How often something was counted. -/
def count (metrics : Metrics) (key : CounterKey) : Nat :=
  (metrics.counters.lookup key).getD 0

end Metrics

/-- A value with the labels that tell it from the others of its family, in ascending order. -/
structure Sample where
  labels : List (String × String)
  value : Nat

/-- The samples of one name. -/
structure Family where
  name : String
  purpose : String
  type : String
  samples : List Sample

/-- The form of a character in the value of a label. -/
def escapeLabelChar : Char → List Char
  | '\\' => ['\\', '\\']
  | '"' => ['\\', '"']
  | '\n' => ['\\', 'n']
  | c => [c]

/-- A label as it is written. -/
def renderMetricLabel (label : String × String) : String :=
  label.1 ++ "=\"" ++ String.ofList (label.2.toList.flatMap escapeLabelChar) ++ "\""

/-- The line of a sample. -/
def Sample.render (name : String) (sample : Sample) : String :=
  let labels := String.intercalate "," (sample.labels.map renderMetricLabel)
  name ++ "\x7b" ++ labels ++ "\x7d " ++ toString sample.value ++ "\n"

/-- The lines of a family. -/
def Family.render (family : Family) : String :=
  if family.samples.isEmpty then ""
  else
    "# HELP " ++ family.name ++ " " ++ family.purpose ++ "\n" ++
      "# TYPE " ++ family.name ++ " " ++ family.type ++ "\n" ++
      String.join (family.samples.map (Sample.render family.name))

/-- The family that shows the version of the running program. -/
def buildFamily : Family where
  name := "helm_operator_build_info"
  purpose := "Build information of the running operator"
  type := "gauge"
  samples := [⟨[("commit", Build.commit), ("version", Build.version)], 1⟩]

namespace Metrics

/-- The sample of a counter. -/
def sample (counter : CounterKey × Nat) : Sample :=
  ⟨[("kind", counter.1.kind), ("result", counter.1.result)], counter.2⟩

/-- The family of the counters. -/
def reconcileFamily (metrics : Metrics) : Family where
  name := "helm_operator_reconcile_total"
  purpose := "Reconciles by watched kind and result"
  type := "counter"
  samples := metrics.counters.map sample

/-- The text that monitoring reads. -/
def render (metrics : Metrics) : String :=
  buildFamily.render ++ metrics.reconcileFamily.render

end Metrics

end ChartOperator
