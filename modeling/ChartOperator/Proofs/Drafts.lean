import ChartOperator.Proofs.Binding
import ChartOperator.Proofs.Except

/-!
# Reconcilers from sequences of settings

A draft holds the last value of each part, or the default of a part that is never set, so neither
earlier values nor the order in which different parts are set make a difference.  The checks of a
draft depend on these values alone, and the first of them that fails is the error.  The reconcilers
that can be built are exactly those that pass every check.
-/

namespace ChartOperator

/-- A part of a reconciler that can be set. -/
inductive ReconcilerPart where
  | chart
  | gvk
  | overrideValues
  | selector
  | watchDependentResources
  | maxConcurrentReconciles
  | reconcilePeriod
  | installAnnotations
  | upgradeAnnotations
  | uninstallAnnotations
  deriving DecidableEq

namespace ReconcilerPart

/-- What a part is set to. -/
@[reducible] def Value : ReconcilerPart → Type
  | .chart => Chart
  | .gvk => Gvk
  | .overrideValues => StringMap
  | .selector => LabelSelector
  | .watchDependentResources => Bool
  | .maxConcurrentReconciles => Nat
  | .reconcilePeriod => Duration
  | .installAnnotations | .upgradeAnnotations | .uninstallAnnotations => List String

/-- The value of a part that is never set; a chart and a kind have to be set. -/
def default? : (part : ReconcilerPart) → Option part.Value
  | .chart | .gvk => none
  | .overrideValues => some []
  | .selector => some {}
  | .watchDependentResources => some true
  | .maxConcurrentReconciles => some 1
  | .reconcilePeriod => some Duration.zero
  | .installAnnotations => some LifecycleAnnotations.install
  | .upgradeAnnotations => some LifecycleAnnotations.upgrade
  | .uninstallAnnotations => some LifecycleAnnotations.uninstall

end ReconcilerPart

/-! ## The last value of a part -/

namespace Setting

/-- The part that a setting is for. -/
def part : Setting → ReconcilerPart
  | .chart _ => .chart
  | .gvk _ => .gvk
  | .overrideValues _ => .overrideValues
  | .selector _ => .selector
  | .watchDependentResources _ => .watchDependentResources
  | .maxConcurrentReconciles _ => .maxConcurrentReconciles
  | .reconcilePeriod _ => .reconcilePeriod
  | .installAnnotations _ => .installAnnotations
  | .upgradeAnnotations _ => .upgradeAnnotations
  | .uninstallAnnotations _ => .uninstallAnnotations

/-- The value that a setting gives to a part; none for a part that it is not for. -/
def value? : Setting → (part : ReconcilerPart) → Option part.Value
  | .chart value, .chart => some value
  | .gvk value, .gvk => some value
  | .overrideValues value, .overrideValues => some value
  | .selector value, .selector => some value
  | .watchDependentResources value, .watchDependentResources => some value
  | .maxConcurrentReconciles value, .maxConcurrentReconciles => some value
  | .reconcilePeriod value, .reconcilePeriod => some value
  | .installAnnotations value, .installAnnotations => some value
  | .upgradeAnnotations value, .upgradeAnnotations => some value
  | .uninstallAnnotations value, .uninstallAnnotations => some value
  | _, _ => none

theorem isSome_value?_iff {setting : Setting} {part : ReconcilerPart} :
    (setting.value? part).isSome = true ↔ setting.part = part := by
  cases setting <;> cases part <;> simp [value?, Setting.part]

theorem value?_eq_none {setting : Setting} {part : ReconcilerPart}
    (different : setting.part ≠ part) : setting.value? part = none := by
  rw [← Option.not_isSome_iff_eq_none, isSome_value?_iff]
  exact different

/-- The last value that some settings give to a part. -/
def last? (settings : List Setting) (part : ReconcilerPart) : Option part.Value :=
  (settings.filterMap (·.value? part)).getLast?

/-- The value of a part after some settings: the last one, or its default. -/
def effective? (settings : List Setting) (part : ReconcilerPart) : Option part.Value :=
  (last? settings part).or part.default?

theorem last?_append (settings others : List Setting) (part : ReconcilerPart) :
    last? (settings ++ others) part = (last? others part).or (last? settings part) := by
  rw [last?, List.filterMap_append, List.getLast?_append, last?, last?]

theorem last?_singleton (setting : Setting) (part : ReconcilerPart) :
    last? [setting] part = setting.value? part := by
  cases given : setting.value? part with
  | none => simp [last?, given]
  | some value => simp [last?, given]

theorem last?_cons (setting : Setting) (settings : List Setting) (part : ReconcilerPart) :
    last? (setting :: settings) part = (last? settings part).or (setting.value? part) := by
  rw [← List.singleton_append, last?_append, last?_singleton]

/-- Of two settings in a row for different parts, either may be the first. -/
theorem last?_swap {first second : Setting} (different : first.part ≠ second.part)
    (before after : List Setting) (part : ReconcilerPart) :
    last? (before ++ second :: first :: after) part =
      last? (before ++ first :: second :: after) part := by
  have one : first.value? part = none ∨ second.value? part = none := by
    by_cases isFirst : first.part = part
    · exact Or.inr (value?_eq_none fun isSecond => different (isFirst.trans isSecond.symm))
    · exact Or.inl (value?_eq_none isFirst)
  rw [last?_append, last?_append, last?_cons, last?_cons, last?_cons, last?_cons]
  rcases one with none | none
  · rw [none, Option.or_none, Option.or_none]
  · rw [none, Option.or_none, Option.or_none]

/-- A setting makes no difference if its part is set again. -/
theorem last?_overwritten {earlier later : Setting} (same : earlier.part = later.part)
    (before between after : List Setting) (part : ReconcilerPart) :
    last? (before ++ earlier :: between ++ later :: after) part =
      last? (before ++ between ++ later :: after) part := by
  rw [List.append_assoc, List.cons_append, last?_append before, last?_cons, List.append_assoc,
    last?_append before]
  by_cases isLater : later.part = part
  · have given : (last? (between ++ later :: after) part).isSome = true := by
      rw [last?_append, last?_cons]
      simp [isSome_value?_iff.mpr isLater]
    rcases Option.isSome_iff_exists.mp given with ⟨value, isValue⟩
    rw [isValue]
    rfl
  · rw [value?_eq_none fun isEarlier => isLater (same.symm.trans isEarlier), Option.or_none]

end Setting

namespace ReconcilerDraft

variable {draft other : ReconcilerDraft} {settings others : List Setting}

/-- The value of a part of a draft. -/
def value? (draft : ReconcilerDraft) : (part : ReconcilerPart) → Option part.Value
  | .chart => draft.chart
  | .gvk => draft.gvk
  | .overrideValues => some draft.overrideValues
  | .selector => some draft.selector
  | .watchDependentResources => some draft.watchDependentResources
  | .maxConcurrentReconciles => some draft.maxConcurrentReconciles
  | .reconcilePeriod => some draft.reconcilePeriod
  | .installAnnotations => some draft.installAnnotations
  | .upgradeAnnotations => some draft.upgradeAnnotations
  | .uninstallAnnotations => some draft.uninstallAnnotations

theorem value?_empty (part : ReconcilerPart) :
    ({} : ReconcilerDraft).value? part = part.default? := by
  cases part <;> rfl

/-- A setting changes the value of its own part and of no other. -/
theorem value?_set (draft : ReconcilerDraft) (setting : Setting) (part : ReconcilerPart) :
    (draft.set setting).value? part = (setting.value? part).or (draft.value? part) := by
  cases setting <;> cases part <;> rfl

/-- By induction on the settings: what is set last counts, and before it what the draft had. -/
theorem value?_foldl_set (draft : ReconcilerDraft) (settings : List Setting)
    (part : ReconcilerPart) :
    (settings.foldl set draft).value? part =
      (Setting.last? settings part).or (draft.value? part) := by
  induction settings generalizing draft with
  | nil => rfl
  | cons setting settings ih =>
      rw [List.foldl_cons, ih, value?_set, Setting.last?_cons, Option.or_assoc]

theorem value?_ofSettings (settings : List Setting) (part : ReconcilerPart) :
    (ofSettings settings).value? part = Setting.effective? settings part := by
  rw [ofSettings, value?_foldl_set, value?_empty, Setting.effective?]

/-- Drafts with the same values are the same. -/
theorem eq_of_value? (same : ∀ part, draft.value? part = other.value? part) : draft = other := by
  rcases draft with ⟨_, _, _, _, _, _, _, _, _, _⟩
  rcases other with ⟨_, _, _, _, _, _, _, _, _, _⟩
  obtain rfl := same .chart
  obtain rfl := same .gvk
  obtain rfl := Option.some.inj (same .overrideValues)
  obtain rfl := Option.some.inj (same .selector)
  obtain rfl := Option.some.inj (same .watchDependentResources)
  obtain rfl := Option.some.inj (same .maxConcurrentReconciles)
  obtain rfl := Option.some.inj (same .reconcilePeriod)
  obtain rfl := Option.some.inj (same .installAnnotations)
  obtain rfl := Option.some.inj (same .upgradeAnnotations)
  obtain rfl := Option.some.inj (same .uninstallAnnotations)
  rfl

/-- A draft depends on nothing but the last value of each part. -/
theorem ofSettings_congr
    (same : ∀ part, Setting.last? others part = Setting.last? settings part) :
    ofSettings others = ofSettings settings := by
  apply eq_of_value?
  intro part
  rw [value?_ofSettings, value?_ofSettings, Setting.effective?, Setting.effective?, same part]

end ReconcilerDraft

/-! ## The checks of a draft -/

/-- What is checked about a draft. -/
inductive BuildCheck where
  | chart
  | gvk
  | completeGvk
  | installable
  | concurrency
  | selector
  deriving DecidableEq

namespace BuildCheck

/-- The checks in their order. -/
def all : List BuildCheck :=
  [chart, gvk, completeGvk, installable, concurrency, selector]

/-- The error of a check that fails on the values of the parts; it does not depend on the checks
before it. -/
def error? (value? : (part : ReconcilerPart) → Option part.Value) : BuildCheck → Option BuildError
  | .chart => if (value? .chart).isNone then some .noChart else none
  | .gvk => if (value? .gvk).isNone then some .noGvk else none
  | .completeGvk =>
      (value? .gvk).bind fun gvk =>
        if gvk.version = "" ∨ gvk.kind = "" then some .incompleteGvk else none
  | .installable =>
      (value? .chart).bind fun chart =>
        if chart.isLibrary then some (.libraryChart chart.name) else none
  | .concurrency =>
      if value? .maxConcurrentReconciles = some 0 then some .zeroConcurrency else none
  | .selector =>
      (value? .selector).bind fun selector => (causeOf? selector.render).map .selector

end BuildCheck

namespace Reconciler

/-- The value of a part of a reconciler. -/
def value (r : Reconciler) : (part : ReconcilerPart) → part.Value
  | .chart => r.chart
  | .gvk => r.gvk
  | .overrideValues => r.overrideValues
  | .selector => r.selector
  | .watchDependentResources => r.watchDependentResources
  | .maxConcurrentReconciles => r.maxConcurrentReconciles
  | .reconcilePeriod => r.reconcilePeriod
  | .installAnnotations => r.installAnnotations
  | .upgradeAnnotations => r.upgradeAnnotations
  | .uninstallAnnotations => r.uninstallAnnotations

/-- What holds of every reconciler: its chart can be installed, its kind is complete, its limit is
at least one, it has the text form of its selector, and its period decides what follows a pass. -/
structure IsSound (r : Reconciler) : Prop where
  version : r.gvk.version ≠ ""
  kind : r.gvk.kind ≠ ""
  installable : r.chart.isLibrary = false
  positive : 1 ≤ r.maxConcurrentReconciles
  rendered : r.selector.render = .ok r.labelSelector
  awaits : r.requeueAction = .awaitChange ↔ r.reconcilePeriod = Duration.zero
  requeues : r.reconcilePeriod ≠ Duration.zero → r.requeueAction = .requeue r.reconcilePeriod

/-- Whether a reconciler is built from some settings. -/
def IsBuilt (r : Reconciler) : Prop :=
  ∃ settings, (ReconcilerDraft.ofSettings settings).build = .ok r

/-- All settings of a reconciler. -/
def settings (r : Reconciler) : List Setting :=
  [.chart r.chart, .gvk r.gvk, .overrideValues r.overrideValues, .selector r.selector,
    .watchDependentResources r.watchDependentResources,
    .maxConcurrentReconciles r.maxConcurrentReconciles, .reconcilePeriod r.reconcilePeriod,
    .installAnnotations r.installAnnotations, .upgradeAnnotations r.upgradeAnnotations,
    .uninstallAnnotations r.uninstallAnnotations]

theorem effective?_settings (r : Reconciler) (part : ReconcilerPart) :
    Setting.effective? r.settings part = some (r.value part) := by
  cases part <;> rfl

theorem requeueAction_eq_awaitChange_iff {r : Reconciler} :
    r.requeueAction = .awaitChange ↔ r.reconcilePeriod = Duration.zero := by
  unfold requeueAction
  split <;> simp_all

theorem requeueAction_of_ne_zero {r : Reconciler} (period : r.reconcilePeriod ≠ Duration.zero) :
    r.requeueAction = .requeue r.reconcilePeriod := by
  rw [requeueAction, if_neg period]

end Reconciler

namespace ReconcilerDraft

variable {draft : ReconcilerDraft} {r : Reconciler} {settings : List Setting}

/-- The error of a draft is that of the first check that fails. -/
theorem causeOf?_build (draft : ReconcilerDraft) :
    causeOf? draft.build = BuildCheck.all.findSome? (BuildCheck.error? draft.value?) := by
  rcases draft with ⟨chart, gvk, _, selector, _, limit, _, _, _, _⟩
  simp only [BuildCheck.all, List.findSome?_cons, BuildCheck.error?, value?, build]
  cases chart with
  | none => rfl
  | some chart =>
      cases gvk with
      | none => rfl
      | some gvk =>
          by_cases incomplete : gvk.version = "" ∨ gvk.kind = ""
          · simp [incomplete, causeOf?]
          · by_cases library : chart.isLibrary = true
            · simp [incomplete, library, causeOf?]
            · by_cases zero : limit = 0
              · simp [incomplete, library, zero, causeOf?]
              · cases rendered : selector.render with
                | error cause => simp [incomplete, library, zero, rendered, causeOf?]
                | ok labelSelector => simp [incomplete, library, zero, rendered, causeOf?]

/-- A draft is built into the reconciler with the values of the draft, if that one is sound. -/
theorem build_eq_ok_iff_isSound :
    draft.build = .ok r ↔ (∀ part, draft.value? part = some (r.value part)) ∧ r.IsSound := by
  rw [build_eq_ok_iff]
  constructor
  · intro builds
    constructor
    · intro part
      cases part with
      | chart => exact builds.chart
      | gvk => exact builds.gvk
      | overrideValues => exact congrArg some builds.overrideValues.symm
      | selector => exact congrArg some builds.selector.symm
      | watchDependentResources => exact congrArg some builds.watchDependentResources.symm
      | maxConcurrentReconciles => exact congrArg some builds.maxConcurrentReconciles.symm
      | reconcilePeriod => exact congrArg some builds.reconcilePeriod.symm
      | installAnnotations => exact congrArg some builds.installAnnotations.symm
      | upgradeAnnotations => exact congrArg some builds.upgradeAnnotations.symm
      | uninstallAnnotations => exact congrArg some builds.uninstallAnnotations.symm
    · exact ⟨builds.version, builds.kind, builds.installable,
        Nat.one_le_iff_ne_zero.mpr builds.positive, builds.rendered,
        Reconciler.requeueAction_eq_awaitChange_iff, Reconciler.requeueAction_of_ne_zero⟩
  · rintro ⟨same, sound⟩
    exact ⟨same .chart, same .gvk, sound.version, sound.kind, sound.installable,
      Nat.one_le_iff_ne_zero.mp sound.positive, sound.rendered,
      (Option.some.inj (same .overrideValues)).symm, (Option.some.inj (same .selector)).symm,
      (Option.some.inj (same .watchDependentResources)).symm,
      (Option.some.inj (same .maxConcurrentReconciles)).symm,
      (Option.some.inj (same .reconcilePeriod)).symm,
      (Option.some.inj (same .installAnnotations)).symm,
      (Option.some.inj (same .upgradeAnnotations)).symm,
      (Option.some.inj (same .uninstallAnnotations)).symm⟩

/-- When a draft passes every check. -/
theorem exists_build_eq_ok_iff :
    (∃ r, draft.build = .ok r) ↔
      ∃ chart gvk text, draft.chart = some chart ∧ draft.gvk = some gvk ∧ gvk.version ≠ "" ∧
        gvk.kind ≠ "" ∧ chart.isLibrary = false ∧ 1 ≤ draft.maxConcurrentReconciles ∧
        draft.selector.render = .ok text := by
  constructor
  · rintro ⟨r, built⟩
    have builds := build_eq_ok_iff.mp built
    refine ⟨r.chart, r.gvk, r.labelSelector, builds.chart, builds.gvk, builds.version, builds.kind,
      builds.installable, ?_, ?_⟩
    · rw [← builds.maxConcurrentReconciles]
      exact Nat.one_le_iff_ne_zero.mpr builds.positive
    · rw [← builds.selector]
      exact builds.rendered
  · rintro ⟨chart, gvk, text, hasChart, hasGvk, version, kind, installable, positive, rendered⟩
    let r : Reconciler :=
      { chart := chart
        gvk := gvk
        overrideValues := draft.overrideValues
        selector := draft.selector
        labelSelector := text
        watchDependentResources := draft.watchDependentResources
        maxConcurrentReconciles := draft.maxConcurrentReconciles
        reconcilePeriod := draft.reconcilePeriod
        installAnnotations := draft.installAnnotations
        upgradeAnnotations := draft.upgradeAnnotations
        uninstallAnnotations := draft.uninstallAnnotations }
    have builds : draft.Builds r :=
      ⟨hasChart, hasGvk, version, kind, installable, Nat.one_le_iff_ne_zero.mp positive, rendered,
        rfl, rfl, rfl, rfl, rfl, rfl, rfl, rfl⟩
    exact ⟨r, build_eq_ok_iff.mpr builds⟩

theorem exists_build_ofSettings_iff :
    (∃ r, (ofSettings settings).build = .ok r) ↔
      ∃ chart gvk limit selector text,
        Setting.last? settings .chart = some chart ∧ Setting.last? settings .gvk = some gvk ∧
        gvk.version ≠ "" ∧ gvk.kind ≠ "" ∧ chart.isLibrary = false ∧
        Setting.effective? settings .maxConcurrentReconciles = some limit ∧ 1 ≤ limit ∧
        Setting.effective? settings .selector = some selector ∧
        selector.render = .ok text := by
  have chart : (ofSettings settings).chart = Setting.last? settings .chart :=
    (value?_ofSettings settings .chart).trans Option.or_none
  have gvk : (ofSettings settings).gvk = Setting.last? settings .gvk :=
    (value?_ofSettings settings .gvk).trans Option.or_none
  rw [exists_build_eq_ok_iff, chart, gvk, ← value?_ofSettings settings .maxConcurrentReconciles,
    ← value?_ofSettings settings .selector]
  constructor
  · rintro ⟨chart, gvk, text, hasChart, hasGvk, version, kind, installable, positive, rendered⟩
    exact ⟨chart, gvk, _, _, text, hasChart, hasGvk, version, kind, installable, rfl, positive, rfl,
      rendered⟩
  · rintro ⟨chart, gvk, limit, selector, text, hasChart, hasGvk, version, kind, installable,
      isLimit, positive, isSelector, rendered⟩
    obtain rfl := Option.some.inj isLimit
    obtain rfl := Option.some.inj isSelector
    exact ⟨chart, gvk, text, hasChart, hasGvk, version, kind, installable, positive, rendered⟩

/-- The reconcilers that can be built are exactly the sound ones. -/
theorem isBuilt_iff_isSound : r.IsBuilt ↔ r.IsSound := by
  constructor
  · rintro ⟨settings, built⟩
    exact (build_eq_ok_iff_isSound.mp built).2
  · intro sound
    refine ⟨r.settings, build_eq_ok_iff_isSound.mpr ⟨fun part => ?_, sound⟩⟩
    rw [value?_ofSettings, Reconciler.effective?_settings]

/-- What is built from settings depends on the last value of each part alone, or its default:
settings of different parts may change places, and a setting whose part is set again may be left
out.  A reconciler is built exactly if there are a chart that can be installed and a complete kind,
the limit is at least one, and the selector has a text form; otherwise the first check that fails
gives the error.  It has all these values, and the reconcilers that exist, those of watches among
them, are exactly the sound ones. -/
theorem build_ofSettings (settings : List Setting) :
    (∀ part, (ofSettings settings).value? part = Setting.effective? settings part) ∧
    (∀ others, (∀ part, Setting.last? others part = Setting.last? settings part) →
      (ofSettings others).build = (ofSettings settings).build) ∧
    (∀ before first second after, settings = before ++ first :: second :: after →
      first.part ≠ second.part →
      (ofSettings (before ++ second :: first :: after)).build = (ofSettings settings).build) ∧
    (∀ before earlier between later after,
      settings = before ++ earlier :: between ++ later :: after → earlier.part = later.part →
      (ofSettings (before ++ between ++ later :: after)).build = (ofSettings settings).build) ∧
    ((∃ r, (ofSettings settings).build = .ok r) ↔
      ∃ chart gvk limit selector text,
        Setting.last? settings .chart = some chart ∧ Setting.last? settings .gvk = some gvk ∧
        gvk.version ≠ "" ∧ gvk.kind ≠ "" ∧ chart.isLibrary = false ∧
        Setting.effective? settings .maxConcurrentReconciles = some limit ∧ 1 ≤ limit ∧
        Setting.effective? settings .selector = some selector ∧ selector.render = .ok text) ∧
    (∀ e, (ofSettings settings).build = .error e ↔
      BuildCheck.all.findSome? (BuildCheck.error? (Setting.effective? settings)) = some e) ∧
    (∀ r, (ofSettings settings).build = .ok r ↔
      (∀ part, Setting.effective? settings part = some (r.value part)) ∧ r.IsSound) ∧
    (∀ r : Reconciler, r.IsBuilt ↔ r.IsSound) ∧
    ∀ (σ : Type) (binder : Binder σ) tuning entry r,
      binder.reconciler tuning entry = .ok r → r.IsBuilt := by
  have values := funext (value?_ofSettings settings)
  refine ⟨value?_ofSettings settings, ?_, ?_, ?_, exists_build_ofSettings_iff, ?_, ?_, ?_, ?_⟩
  · intro others same
    rw [ofSettings_congr same]
  · rintro before first second after rfl different
    rw [ofSettings_congr (Setting.last?_swap different before after)]
  · rintro before earlier between later after rfl same
    rw [ofSettings_congr (Setting.last?_overwritten same before between after)]
  · intro e
    rw [← causeOf?_eq_some_iff, causeOf?_build, values]
  · intro r
    rw [build_eq_ok_iff_isSound, values]
  · intro r
    exact isBuilt_iff_isSound
  · intro σ binder tuning entry r reconciled
    have built := (Binder.isReconcilerOf_iff.mpr reconciled).built
    exact isBuilt_iff_isSound.mpr (build_eq_ok_iff_isSound.mp built).2

/-- Settings that first give a limit of zero. -/
def exampleSettings : List Setting :=
  [.maxConcurrentReconciles 0, .chart { metadata := { name := "app" } },
    .reconcilePeriod (Duration.ofSeconds 60), .gvk ⟨"", "v1", "Site"⟩, .maxConcurrentReconciles 2]

/-- The same settings in another order, without the one that does not count. -/
def exampleReordered : List Setting :=
  [.gvk ⟨"", "v1", "Site"⟩, .maxConcurrentReconciles 2, .reconcilePeriod (Duration.ofSeconds 60),
    .chart { metadata := { name := "app" } }]

/-- The limit of zero does not count in the example, and neither does the order of the settings. -/
theorem build_ofSettings_exampleSettings :
    (ofSettings exampleReordered).build = (ofSettings exampleSettings).build ∧
    (ofSettings [.maxConcurrentReconciles 0, .reconcilePeriod (Duration.ofSeconds 60),
        .chart { metadata := { name := "app" } }, .gvk ⟨"", "v1", "Site"⟩,
        .maxConcurrentReconciles 2]).build =
      (ofSettings exampleSettings).build ∧
    (ofSettings exampleSettings.tail).build = (ofSettings exampleSettings).build ∧
    (∃ r, (ofSettings exampleSettings).build = .ok r ∧ r.maxConcurrentReconciles = 2 ∧
      r.requeueAction = .requeue (Duration.ofSeconds 60)) ∧
    ∃ entry ∈ Binder.exampleEntries, ∃ r,
      Binder.recorder.reconciler ⟨4, Duration.zero⟩ entry = .ok r ∧ r.IsBuilt := by
  rcases build_ofSettings exampleSettings with
    ⟨-, lastCounts, swap, overwritten, exists_iff, -, built_iff, -, bound⟩
  refine ⟨lastCounts exampleReordered fun part => by cases part <;> rfl,
    swap [_] _ _ [_, _] rfl (by decide), overwritten [] _ [_, _, _] _ [] rfl rfl, ?_, ?_⟩
  · rcases exists_iff.mpr ⟨{ metadata := { name := "app" } }, ⟨"", "v1", "Site"⟩, 2, {}, none,
      rfl, rfl, by decide, by decide, by decide, rfl, by decide, rfl, rfl⟩ with ⟨r, built⟩
    rcases (built_iff r).mp built with ⟨values, sound⟩
    have limit : 2 = r.maxConcurrentReconciles :=
      Option.some.inj (values .maxConcurrentReconciles)
    have period : Duration.ofSeconds 60 = r.reconcilePeriod :=
      Option.some.inj (values .reconcilePeriod)
    have nonzero : r.reconcilePeriod ≠ Duration.zero := by
      rw [← period]
      decide
    exact ⟨r, built, limit.symm, (sound.requeues nonzero).trans (congrArg _ period.symm)⟩
  · rcases List.exists_cons_of_ne_nil (l := Binder.exampleEntries) (by decide) with
      ⟨entry, others, entries⟩
    have isOk : (Binder.recorder.reconciler ⟨4, Duration.zero⟩ entry).isOk = true := by
      cases entries
      rfl
    rcases exists_eq_ok_of_isOk isOk with ⟨r, reconciled⟩
    exact ⟨entry, by simp [entries], r, reconciled, bound _ _ _ entry r reconciled⟩

end ReconcilerDraft

end ChartOperator
