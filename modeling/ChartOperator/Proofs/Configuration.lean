import ChartOperator.Config.Resolution
import ChartOperator.Proofs.Except

/-!
# Accepted configurations

The variables are accepted exactly when their texts are well-formed, and the sources are merged
exactly when no flag is given under both of its names and some reconcile is allowed.
-/

namespace ChartOperator

namespace VariableSettings

variable {env : Environment} {values : VariableSettings}

/-- A variable is read exactly if its text, when there is one, is well-formed. -/
theorem readVariable_eq_ok_iff {α : Type} {v : Variable} {read : String → Except VariableFault α}
    {found : Option α} :
    readVariable env v read = .ok found ↔
      (∀ text, env.nonEmpty? v = some text → ∃ a, read text = .ok a) ∧
        found = (env.nonEmpty? v).bind fun text => (read text).toOption := by
  unfold readVariable
  cases env.nonEmpty? v with
  | none => simp [eq_comm]
  | some text =>
      cases result : read text with
      | error fault => simp [result]
      | ok a => simp [result, Except.toOption, eq_comm]

/-- A variable that is read sets something exactly if it is neither unset nor empty. -/
theorem isSome_of_readVariable {α : Type} {v : Variable} {read : String → Except VariableFault α}
    {found : Option α} (accepted : readVariable env v read = .ok found) :
    found.isSome = (env.nonEmpty? v).isSome := by
  rcases readVariable_eq_ok_iff.mp accepted with ⟨wellFormed, rfl⟩
  cases present : env.nonEmpty? v with
  | none => rfl
  | some text =>
      rcases wellFormed text present with ⟨a, result⟩
      simp [result, Except.toOption]

/-- The settings that an accepted environment holds. -/
structure Reads (env : Environment) (values : VariableSettings) : Prop where
  watchesFile : values.watchesFile = (env.nonEmpty? .watchesFile).map Path.ofString
  metricsBindAddress : values.metricsBindAddress = env.nonEmpty? .metricsBindAddress
  healthProbeBindAddress : values.healthProbeBindAddress = env.nonEmpty? .healthProbeBindAddress
  leaderElect : readVariable env .leaderElect readBool = .ok values.leaderElect
  leaderElectionId : values.leaderElectionId = env.nonEmpty? .leaderElectionId
  leaderElectionNamespace : values.leaderElectionNamespace = env.nonEmpty? .leaderElectionNamespace
  maxConcurrentReconciles :
    readVariable env .maxConcurrentReconciles readNumber = .ok values.maxConcurrentReconciles
  reconcilePeriod : readVariable env .reconcilePeriod readDuration = .ok values.reconcilePeriod
  operatorName : values.operatorName = env.get? .operatorName

theorem ofEnvironment_eq_ok_iff : ofEnvironment env = .ok values ↔ Reads env values := by
  simp only [ofEnvironment, bind_eq_ok_iff]
  constructor
  · rintro ⟨elect, electRead, limit, limitRead, period, periodRead, collected⟩
    obtain rfl := Except.ok.inj collected
    exact ⟨rfl, rfl, rfl, electRead, rfl, rfl, limitRead, periodRead, rfl⟩
  · intro reads
    refine ⟨_, reads.leaderElect, _, reads.maxConcurrentReconciles, _, reads.reconcilePeriod, ?_⟩
    rw [← reads.watchesFile, ← reads.metricsBindAddress, ← reads.healthProbeBindAddress,
      ← reads.leaderElectionId, ← reads.leaderElectionNamespace, ← reads.operatorName]

end VariableSettings

namespace Flags

/-- Without a conflict no flag is given under both of its names. -/
theorem not_both_of_conflict? {flags : Flags} (none : flags.conflict? = none)
    (legacy : LegacyFlag) :
    ¬ (flags.hasReplacement legacy = true ∧ flags.hasLegacy legacy = true) := by
  intro both
  have mem : legacy ∈ LegacyFlag.all := by
    cases legacy <;> decide
  exact List.find?_eq_none.mp none legacy mem (by simp [both])

/-- Of two alternatives that exclude each other, each one counts. -/
theorem orElse_eq_some_iff_of_not_both {α : Type} {first second : Option α} {a : α}
    (notBoth : ¬ (first.isSome = true ∧ second.isSome = true)) :
    (first <|> second) = some a ↔ first = some a ∨ second = some a := by
  cases first with
  | none => simp
  | some b =>
      cases second with
      | none => simp
      | some c => simp at notBoth

end Flags

/-- The sources are merged exactly if no flags are in conflict and some reconcile is allowed. -/
theorem resolve_eq_ok_iff {sources : Sources} {resolution : Resolution} :
    resolve sources = .ok resolution ↔
      sources.flags.conflict? = none ∧ sources.settings.maxConcurrentReconciles ≠ 0 ∧
        resolution = ⟨sources.settings, sources.notices⟩ := by
  unfold resolve checkFlags
  cases sources.flags.conflict? with
  | some legacy => simp
  | none =>
      by_cases zero : sources.settings.maxConcurrentReconciles = 0
      · simp [zero]
      · simp [zero, eq_comm]

end ChartOperator
