import ChartOperator.Reconciler.Draft

/-!
# When a reconciler is built

A draft is built exactly when all of its checks pass, and the reconciler has the parts of the draft.
Once the chart, the kind and the limit are in order, only a library chart or a selector without a
text form is left as a reason to refuse the draft.
-/

namespace ChartOperator

namespace ReconcilerDraft

/-- A reconciler that has the parts of a draft, where the draft passes every check. -/
structure Builds (draft : ReconcilerDraft) (r : Reconciler) : Prop where
  chart : draft.chart = some r.chart
  gvk : draft.gvk = some r.gvk
  version : r.gvk.version ≠ ""
  kind : r.gvk.kind ≠ ""
  installable : r.chart.isLibrary = false
  positive : r.maxConcurrentReconciles ≠ 0
  rendered : r.selector.render = .ok r.labelSelector
  overrideValues : r.overrideValues = draft.overrideValues
  selector : r.selector = draft.selector
  watchDependentResources : r.watchDependentResources = draft.watchDependentResources
  maxConcurrentReconciles : r.maxConcurrentReconciles = draft.maxConcurrentReconciles
  reconcilePeriod : r.reconcilePeriod = draft.reconcilePeriod
  installAnnotations : r.installAnnotations = draft.installAnnotations
  upgradeAnnotations : r.upgradeAnnotations = draft.upgradeAnnotations
  uninstallAnnotations : r.uninstallAnnotations = draft.uninstallAnnotations

theorem builds_of_build_eq_ok {draft : ReconcilerDraft} {r : Reconciler}
    (built : draft.build = .ok r) : draft.Builds r := by
  unfold build at built
  split at built
  · contradiction
  · contradiction
  · rename_i chart gvk hasChart hasGvk
    split at built
    · contradiction
    · rename_i complete
      split at built
      · contradiction
      · rename_i installable
        split at built
        · contradiction
        · rename_i positive
          split at built
          · contradiction
          · rename_i labelSelector rendered
            obtain rfl := Except.ok.inj built
            obtain ⟨version, kind⟩ := not_or.mp complete
            exact ⟨hasChart, hasGvk, version, kind, by simpa using installable, positive, rendered,
              rfl, rfl, rfl, rfl, rfl, rfl, rfl, rfl⟩

/-- A draft is built exactly when it passes every check. -/
theorem build_eq_ok_iff {draft : ReconcilerDraft} {r : Reconciler} :
    draft.build = .ok r ↔ draft.Builds r := by
  refine ⟨builds_of_build_eq_ok, fun builds => ?_⟩
  have rendered := builds.rendered
  have positive := builds.positive
  rw [builds.selector] at rendered
  rw [builds.maxConcurrentReconciles] at positive
  simp only [build, builds.chart, builds.gvk, builds.version, builds.kind, builds.installable,
    positive, rendered, or_self, if_false, Bool.false_eq_true, Except.ok.injEq]
  rw [← builds.overrideValues, ← builds.selector, ← builds.watchDependentResources,
    ← builds.maxConcurrentReconciles, ← builds.reconcilePeriod, ← builds.installAnnotations,
    ← builds.upgradeAnnotations, ← builds.uninstallAnnotations]

/-- The faults that are left once a draft has a chart, a whole kind and a limit. -/
theorem fault_of_build_eq_error {draft : ReconcilerDraft} {chart : Chart} {gvk : Gvk}
    {cause : BuildError} (hasChart : draft.chart = some chart) (hasGvk : draft.gvk = some gvk)
    (version : gvk.version ≠ "") (kind : gvk.kind ≠ "")
    (positive : draft.maxConcurrentReconciles ≠ 0) (refused : draft.build = .error cause) :
    (chart.isLibrary = true ∧ cause = .libraryChart chart.name) ∨
      ∃ fault, draft.selector.render = .error fault ∧ cause = .selector fault := by
  simp only [build, hasChart, hasGvk, version, kind, positive, or_self, if_false] at refused
  split at refused
  · rename_i library
    exact Or.inl ⟨library, (Except.error.inj refused).symm⟩
  · split at refused
    · rename_i fault rendered
      exact Or.inr ⟨fault, rendered, (Except.error.inj refused).symm⟩
    · contradiction

end ReconcilerDraft

end ChartOperator
