import ChartOperator.Proofs.Configuration
import ChartOperator.Proofs.Signal
import ChartOperator.Startup.Plan

/-!
# Planning

A run is planned in stages: the flags, the configuration file, the variables, the limit for
reconciles, and the webhook options.  If some stages fail, the first of them gives the error.  A
plan has no webhook options, allows some reconcile, and has a scope without blank names.
-/

namespace ChartOperator

/-- What is wrong with the text of a variable, if it does not stand for a value. -/
def Variable.fault? : Variable → String → Option VariableFault
  | .leaderElect, text => causeOf? (VariableSettings.readBool text)
  | .maxConcurrentReconciles, text => causeOf? (VariableSettings.readNumber text)
  | .reconcilePeriod, text => causeOf? (VariableSettings.readDuration text)
  | _, _ => none

/-- Whether a configuration file sets a webhook option, to something that is neither empty nor
zero. -/
def WebhookSection.gives (options : WebhookSection) : WebhookField → Bool
  | .certDir => options.certDir.any (· ≠ "")
  | .host => options.host.any (· ≠ "")
  | .port => options.port.any (· ≠ 0)

/-- The webhook options that a configuration file sets. -/
def WebhookSection.given (options : WebhookSection) : List WebhookField :=
  [WebhookField.certDir, .host, .port].filter options.gives

/-- The limit for reconciles at a time: that of the flags, or of the variables, or the number of
processors. -/
def effectiveLimit (sources : ConfigSources) (flags : Flags) : Nat :=
  let held := (sources.environment.nonEmpty? .maxConcurrentReconciles).bind fun text =>
    (VariableSettings.readNumber text).toOption
  (flags.maxConcurrentReconciles <|> held).getD sources.processors

/-! ## Stages -/

/-- A stage of planning. -/
inductive PlanStage where
  /-- A flag and its older name exclude each other. -/
  | flagPair (legacy : LegacyFlag)
  | readFile
  | parseFile
  | readVariable (v : Variable)
  /-- Some reconcile has to be allowed. -/
  | limit
  /-- No webhook option may be set. -/
  | webhook

namespace PlanStage

/-- The stages in their order. -/
def all : List PlanStage :=
  [.flagPair .enableLeaderElection, .flagPair .metricsAddr, .readFile, .parseFile,
    .readVariable .leaderElect, .readVariable .maxConcurrentReconciles,
    .readVariable .reconcilePeriod, .limit, .webhook]

/-- The error of a stage, if it fails, whatever becomes of the others. -/
def failure? (sources : ConfigSources) (flags : Flags) : PlanStage → Option OperatorError
  | .flagPair legacy =>
      if flags.hasReplacement legacy && flags.hasLegacy legacy then
        some (.config (.conflictingFlags legacy))
      else none
  | .readFile => do
      let path ← flags.configFile
      let cause ← causeOf? (sources.files.readText path)
      return .config (.unreadableFile path cause)
  | .parseFile => do
      let path ← flags.configFile
      let content ← (sources.files.readText path).toOption
      let cause ← causeOf? (ConfigFile.parse content)
      return .config (.malformedFile path cause)
  | .readVariable v => do
      let text ← sources.environment.nonEmpty? v
      let fault ← v.fault? text
      return .config (.invalidVariable v text fault)
  | .limit => if effectiveLimit sources flags = 0 then some (.config .zeroConcurrency) else none
  | .webhook => do
      let file ← (readConfigFile sources.files flags).toOption
      if file.webhook.given = [] then none else return .unsupported file.webhook.given

variable {sources : ConfigSources} {flags : Flags}

/-- The stages by what they look at: the flags, the file, the variables, and what they make up. -/
theorem all_eq :
    all = [flagPair .enableLeaderElection, flagPair .metricsAddr] ++ ([readFile, parseFile] ++
      ([readVariable .leaderElect, readVariable .maxConcurrentReconciles,
        readVariable .reconcilePeriod] ++ [limit, webhook])) := rfl

/-- The flags fail at the first pair that is in conflict. -/
theorem findSome?_flagPair (sources : ConfigSources) (flags : Flags) :
    [flagPair .enableLeaderElection, flagPair .metricsAddr].findSome? (failure? sources flags) =
      flags.conflict?.map fun legacy => .config (.conflictingFlags legacy) := by
  simp only [List.findSome?, failure?, Flags.conflict?, LegacyFlag.all, List.find?]
  cases flags.hasReplacement .enableLeaderElection && flags.hasLegacy .enableLeaderElection with
  | true => rfl
  | false =>
      cases flags.hasReplacement .metricsAddr && flags.hasLegacy .metricsAddr with
      | true => rfl
      | false => rfl

theorem findSome?_file (sources : ConfigSources) (flags : Flags) :
    [readFile, parseFile].findSome? (failure? sources flags) =
      (causeOf? (readConfigFile sources.files flags)).map .config := by
  simp only [List.findSome?, failure?, readConfigFile, ConfigFile.load]
  cases flags.configFile with
  | none => rfl
  | some path =>
      cases content : sources.files.readText path with
      | error cause => simp [content, causeOf?]
      | ok text =>
          cases parsed : ConfigFile.parse text with
          | error cause => simp [content, parsed, causeOf?, Except.toOption]
          | ok file => simp [content, parsed, causeOf?, Except.toOption]

theorem failure?_readVariable {α : Type} {v : Variable} (read : String → Except VariableFault α)
    (reads : ∀ text, v.fault? text = causeOf? (read text)) :
    failure? sources flags (.readVariable v) =
      (causeOf? (VariableSettings.readVariable sources.environment v read)).map .config := by
  simp only [failure?, VariableSettings.readVariable, reads]
  cases sources.environment.nonEmpty? v with
  | none => rfl
  | some text =>
      cases result : read text with
      | error fault => simp [causeOf?, result]
      | ok a => simp [causeOf?, result]

/-- The variables fail at the first one that is malformed. -/
theorem findSome?_readVariable (sources : ConfigSources) (flags : Flags) :
    [readVariable .leaderElect, readVariable .maxConcurrentReconciles,
        readVariable .reconcilePeriod].findSome? (failure? sources flags) =
      (causeOf? (VariableSettings.ofEnvironment sources.environment)).map .config := by
  simp only [List.findSome?, VariableSettings.ofEnvironment,
    failure?_readVariable (v := .leaderElect) VariableSettings.readBool fun _ => rfl,
    failure?_readVariable (v := .maxConcurrentReconciles) VariableSettings.readNumber fun _ => rfl,
    failure?_readVariable (v := .reconcilePeriod) VariableSettings.readDuration fun _ => rfl]
  cases VariableSettings.readVariable sources.environment .leaderElect
    VariableSettings.readBool with
  | error fault => rfl
  | ok leaderElect =>
      cases VariableSettings.readVariable sources.environment .maxConcurrentReconciles
        VariableSettings.readNumber with
      | error fault => rfl
      | ok limit =>
          cases VariableSettings.readVariable sources.environment .reconcilePeriod
            VariableSettings.readDuration with
          | error fault => rfl
          | ok period => rfl

end PlanStage

/-! ## Plans -/

/-- The sources of a configuration, once they are read. -/
def ConfigSources.merged (sources : ConfigSources) (flags : Flags) (file : ConfigFile)
    (values : VariableSettings) : Sources where
  flags := flags
  environment := values
  file := file
  defaults := { maxConcurrentReconciles := sources.processors }

section

variable {sources : ConfigSources} {flags : Flags} {file : ConfigFile} {values : VariableSettings}

theorem isSet_webhook (s : Sources) : s.settings.webhook.isSet = s.file.webhook.gives := by
  funext field
  cases field with
  | certDir => cases present : s.file.webhook.certDir <;>
      simp [Sources.settings, Sources.webhook, WebhookOptions.isSet, WebhookSection.gives, present]
  | host => cases present : s.file.webhook.host <;>
      simp [Sources.settings, Sources.webhook, WebhookOptions.isSet, WebhookSection.gives, present]
  | port => cases present : s.file.webhook.port <;>
      simp [Sources.settings, Sources.webhook, WebhookOptions.isSet, WebhookSection.gives, present]

theorem unsupported_settings (s : Sources) : s.settings.unsupported = s.file.webhook.given := by
  rw [Settings.unsupported, isSet_webhook, WebhookSection.given]

/-- Once the variables are read, the limit is that of the first source that sets one. -/
theorem limit_merged (file : ConfigFile)
    (valuesRead : VariableSettings.ofEnvironment sources.environment = .ok values) :
    (sources.merged flags file values).settings.maxConcurrentReconciles =
      effectiveLimit sources flags := by
  have reads := VariableSettings.ofEnvironment_eq_ok_iff.mp valuesRead
  have held := (VariableSettings.readVariable_eq_ok_iff.mp reads.maxConcurrentReconciles).2
  rw [effectiveLimit, ← held]
  rfl

theorem resolveAll_of_read (noConflict : flags.conflict? = none)
    (fileRead : readConfigFile sources.files flags = .ok file)
    (valuesRead : VariableSettings.ofEnvironment sources.environment = .ok values) :
    resolveAll sources flags =
      if effectiveLimit sources flags = 0 then .error .zeroConcurrency
      else .ok ⟨(sources.merged flags file values).settings,
        (sources.merged flags file values).notices⟩ := by
  have unopposed : checkFlags flags = .ok () := by rw [checkFlags, noConflict]
  rw [resolveAll, unopposed, fileRead, valuesRead, ← limit_merged file valuesRead]
  change resolve (sources.merged flags file values) = _
  have mergedUnopposed : checkFlags (sources.merged flags file values).flags = .ok () := unopposed
  rw [resolve, mergedUnopposed]

theorem planRun_of_conflict {legacy : LegacyFlag} (conflict : flags.conflict? = some legacy) :
    planRun sources flags = .error (.config (.conflictingFlags legacy)) := by
  have opposed : checkFlags flags = .error (.conflictingFlags legacy) := by
    rw [checkFlags, conflict]
  rw [planRun, resolveAll, opposed]
  rfl

/-- A run whose sources can all be read is planned, unless it allows no reconcile or sets webhook
options. -/
theorem planRun_of_read (noConflict : flags.conflict? = none)
    (fileRead : readConfigFile sources.files flags = .ok file)
    (valuesRead : VariableSettings.ofEnvironment sources.environment = .ok values) :
    planRun sources flags =
      if effectiveLimit sources flags = 0 then .error (.config .zeroConcurrency)
      else if file.webhook.given = [] then
        .ok (.ofResolution sources.environment ⟨(sources.merged flags file values).settings,
          (sources.merged flags file values).notices⟩)
      else .error (.unsupported file.webhook.given) := by
  rw [planRun, resolveAll_of_read noConflict fileRead valuesRead]
  by_cases zero : effectiveLimit sources flags = 0
  · simp [zero]
  · simp only [zero, if_false, unsupported_settings]
    have same : (sources.merged flags file values).file.webhook.given = file.webhook.given := rfl
    rw [same]
    cases file.webhook.given with
    | nil => rfl
    | cons field rest => simp

/-- A run is planned with the error of the first stage that fails, if some stage fails. -/
theorem causeOf?_planRun (sources : ConfigSources) (flags : Flags) :
    causeOf? (planRun sources flags) =
      PlanStage.all.findSome? (PlanStage.failure? sources flags) := by
  rw [PlanStage.all_eq, List.findSome?_append, List.findSome?_append, List.findSome?_append,
    PlanStage.findSome?_flagPair, PlanStage.findSome?_file, PlanStage.findSome?_readVariable]
  cases conflict : flags.conflict? with
  | some legacy => simp [planRun_of_conflict conflict, causeOf?]
  | none =>
      have unopposed : checkFlags flags = .ok () := by rw [checkFlags, conflict]
      cases fileRead : readConfigFile sources.files flags with
      | error cause => simp [planRun, resolveAll, unopposed, fileRead, bind, Except.bind, causeOf?]
      | ok file =>
          cases valuesRead : VariableSettings.ofEnvironment sources.environment with
          | error cause =>
              simp [planRun, resolveAll, unopposed, fileRead, valuesRead, bind, Except.bind,
                causeOf?]
          | ok values =>
              rw [planRun_of_read conflict fileRead valuesRead]
              by_cases zero : effectiveLimit sources flags = 0
              · simp [PlanStage.failure?, zero, causeOf?]
              · by_cases noWebhook : file.webhook.given = []
                · simp [PlanStage.failure?, zero, fileRead, noWebhook, causeOf?, Except.toOption]
                · simp [PlanStage.failure?, zero, fileRead, noWebhook, causeOf?, Except.toOption]

theorem exists_read_of_planRun {outcome : Except OperatorError StartupPlan}
    (planned : planRun sources flags = outcome) (late : ∀ cause, outcome ≠ .error (.config cause)) :
    flags.conflict? = none ∧ ∃ file values, readConfigFile sources.files flags = .ok file ∧
      VariableSettings.ofEnvironment sources.environment = .ok values := by
  subst planned
  cases resolved : resolveAll sources flags with
  | error cause =>
      refine absurd ?_ (late cause)
      rw [planRun, resolved]
  | ok resolution =>
      simp only [resolveAll, bind_eq_ok_iff] at resolved
      rcases resolved with ⟨-, -, file, fileRead, values, valuesRead, merged⟩
      exact ⟨(resolve_eq_ok_iff.mp merged).1, file, values, fileRead, valuesRead⟩

/-- A run is planned exactly if its sources can all be read, it allows some reconcile, and no
webhook option is set. -/
theorem planRun_eq_ok_iff {plan : StartupPlan} :
    planRun sources flags = .ok plan ↔
      flags.conflict? = none ∧ ∃ file values, readConfigFile sources.files flags = .ok file ∧
        VariableSettings.ofEnvironment sources.environment = .ok values ∧
        effectiveLimit sources flags ≠ 0 ∧ file.webhook.given = [] ∧
        plan = .ofResolution sources.environment ⟨(sources.merged flags file values).settings,
          (sources.merged flags file values).notices⟩ := by
  constructor
  · intro planned
    obtain ⟨noConflict, file, values, fileRead, valuesRead⟩ :=
      exists_read_of_planRun planned (by simp)
    rw [planRun_of_read noConflict fileRead valuesRead] at planned
    split at planned
    · contradiction
    · rename_i positive
      split at planned
      · rename_i noWebhook
        exact ⟨noConflict, file, values, fileRead, valuesRead, positive, noWebhook,
          (Except.ok.inj planned).symm⟩
      · contradiction
  · rintro ⟨noConflict, file, values, fileRead, valuesRead, positive, noWebhook, rfl⟩
    rw [planRun_of_read noConflict fileRead valuesRead, if_neg positive, if_pos noWebhook]

/-- A run with unsupported options names all of those that its file sets. -/
theorem given_of_unsupported {fields : List WebhookField}
    (refused : planRun sources flags = .error (.unsupported fields)) :
    ∃ file, readConfigFile sources.files flags = .ok file ∧ fields = file.webhook.given ∧
      fields ≠ [] := by
  obtain ⟨noConflict, file, values, fileRead, valuesRead⟩ :=
    exists_read_of_planRun refused (by simp)
  rw [planRun_of_read noConflict fileRead valuesRead] at refused
  split at refused
  · simp at refused
  · split at refused
    · contradiction
    · rename_i someGiven
      obtain rfl : file.webhook.given = fields := by simpa using refused
      exact ⟨file, fileRead, rfl, someGiven⟩

/-- What holds of every plan, so that nothing after it has to check it again. -/
structure StartupPlan.IsSound (plan : StartupPlan) (env : Environment) : Prop where
  positive : 1 ≤ plan.settings.maxConcurrentReconciles
  certDir : plan.settings.webhook.certDir = ""
  host : plan.settings.webhook.host = ""
  port : plan.settings.webhook.port = 0
  /-- A configured namespace has a name. -/
  configured : plan.settings.watchedNamespace ≠ some ""
  decided : plan.scope = Scope.decide (env.get? .watchNamespace) plan.settings.watchedNamespace
  /-- A single namespace has a name. -/
  notBlank : plan.scope ≠ .single ""
  /-- A set of namespaces is not empty. -/
  notEmpty : plan.scope ≠ .several []

theorem webhook_of_unsupported_eq_nil {settings : Settings}
    (noWebhook : settings.unsupported = []) :
    settings.webhook = {} := by
  have unset : ∀ field, settings.webhook.isSet field = false := by
    intro field
    rw [Settings.unsupported, List.filter_eq_nil_iff] at noWebhook
    simpa using noWebhook field (by cases field <;> simp)
  generalize settings.webhook = webhook at unset ⊢
  obtain ⟨certDir, host, port⟩ := webhook
  have noCertDir := unset .certDir
  have noHost := unset .host
  have noPort := unset .port
  simp only [WebhookOptions.isSet, ne_eq, decide_not, Bool.not_eq_false', decide_eq_true_eq]
    at noCertDir noHost noPort
  rw [noCertDir, noHost, noPort]

theorem isSound_of_planRun {plan : StartupPlan} (planned : planRun sources flags = .ok plan) :
    plan.IsSound sources.environment := by
  obtain ⟨-, file, values, -, valuesRead, positive, noWebhook, rfl⟩ := planRun_eq_ok_iff.mp planned
  have unset : (sources.merged flags file values).settings.webhook = {} := by
    apply webhook_of_unsupported_eq_nil
    rw [unsupported_settings]
    exact noWebhook
  constructor
  case positive =>
    rw [← limit_merged file valuesRead] at positive
    exact Nat.one_le_iff_ne_zero.mpr positive
  case certDir => exact congrArg WebhookOptions.certDir unset
  case host => exact congrArg WebhookOptions.host unset
  case port => exact congrArg WebhookOptions.port unset
  case configured =>
    change nonEmpty file.cacheNamespace ≠ some ""
    simp [nonEmpty]
  case decided => rfl
  case notBlank => exact Scope.decide_ne_single_empty _ _
  case notEmpty => exact Scope.decide_ne_several_nil _ _

/-- A planned run allows at least one reconcile at a time. -/
theorem positive_of_planRun {plan : StartupPlan} (planned : planRun sources flags = .ok plan) :
    1 ≤ plan.tuning.maxConcurrentReconciles :=
  (isSound_of_planRun planned).positive

/-- A run is planned unless some stage fails, and the first stage that does gives the error.  So
flags in conflict give the same error whatever else there is.  Every plan is sound, and unsupported
options are named as the file sets them. -/
theorem planRun_outcome (sources : ConfigSources) (flags : Flags) :
    (∀ e, planRun sources flags = .error e ↔
      ∃ before stage after, PlanStage.all = before ++ stage :: after ∧
        stage.failure? sources flags = some e ∧
        ∀ earlier ∈ before, earlier.failure? sources flags = none) ∧
    (∀ legacy, flags.hasReplacement legacy = true → flags.hasLegacy legacy = true →
      ∃ first, ∀ others, planRun others flags = .error (.config (.conflictingFlags first))) ∧
    (∀ plan, planRun sources flags = .ok plan → plan.IsSound sources.environment) ∧
    ∀ fields, planRun sources flags = .error (.unsupported fields) →
      ∃ file, readConfigFile sources.files flags = .ok file ∧ fields = file.webhook.given ∧
        fields ≠ [] := by
  refine ⟨?_, ?_, ?_, ?_⟩
  · intro e
    rw [← causeOf?_eq_some_iff, causeOf?_planRun, List.findSome?_eq_some_iff]
  · intro legacy replaced older
    cases conflict : flags.conflict? with
    | none => exact absurd ⟨replaced, older⟩ (Flags.not_both_of_conflict? conflict legacy)
    | some first =>
        exact ⟨first, fun others => planRun_of_conflict conflict⟩
  · intro plan planned
    exact isSound_of_planRun planned
  · intro fields refused
    exact given_of_unsupported refused

/-- A configuration file that sets two webhook options, and a variable for the leader election. -/
def exampleSources (leaderElect : String) : ConfigSources where
  files := ⟨[(Utf8.ofString "config.yaml",
    .file (Utf8.ofString "webhook:\n  host: h\n  port: 9443\n"))]⟩
  environment name := if name = Variable.leaderElect.name then some leaderElect else none
  processors := 1

/-- Flags that name the configuration file and allow a number of reconciles. -/
def exampleFlags (limit : Nat) : Flags where
  configFile := some (.ofString "config.yaml")
  maxConcurrentReconciles := some limit

/-- A malformed variable is found before a limit of zero and the webhook options.  With neither of
those faults the webhook options are the error, and without a configuration file there is a plan. -/
theorem planRun_outcome_exampleFaults :
    planRun (exampleSources "maybe") (exampleFlags 0) =
        .error (.config (.invalidVariable .leaderElect "maybe" .noBoolean)) ∧
      (planRun (exampleSources "on") (exampleFlags 1) = .error (.unsupported [.host, .port]) ∧
        ∃ file, readConfigFile (exampleSources "on").files (exampleFlags 1) = .ok file ∧
          [.host, .port] = file.webhook.given ∧ [WebhookField.host, .port] ≠ []) ∧
      ∃ plan, planRun (exampleSources "on") {} = .ok plan ∧
        plan.IsSound (exampleSources "on").environment := by
  refine ⟨?_, ?_, ?_⟩
  · have passed : ∀ earlier ∈ PlanStage.all.take 4,
        (earlier.failure? (exampleSources "maybe") (exampleFlags 0)).isNone = true := by
      decide +kernel
    apply ((planRun_outcome (exampleSources "maybe") (exampleFlags 0)).1 _).mpr
    exact ⟨PlanStage.all.take 4, .readVariable .leaderElect, _, rfl, rfl,
      fun earlier mem => Option.isNone_iff_eq_none.mp (passed earlier mem)⟩
  · have fileRead : readConfigFile (exampleSources "on").files (exampleFlags 1) =
        .ok { webhook := { host := some "h", port := some 9443 } } := by
      rw [← toOption_eq_some_iff]
      decide +kernel
    have passed : ∀ earlier ∈ PlanStage.all.dropLast,
        (earlier.failure? (exampleSources "on") (exampleFlags 1)).isNone = true := by
      decide +kernel
    have given : PlanStage.webhook.failure? (exampleSources "on") (exampleFlags 1) =
        some (.unsupported [.host, .port]) := by
      rw [PlanStage.failure?, fileRead]
      rfl
    have refused :
        planRun (exampleSources "on") (exampleFlags 1) = .error (.unsupported [.host, .port]) := by
      apply ((planRun_outcome (exampleSources "on") (exampleFlags 1)).1 _).mpr
      exact ⟨PlanStage.all.dropLast, .webhook, [], rfl, given,
        fun earlier mem => Option.isNone_iff_eq_none.mp (passed earlier mem)⟩
    exact ⟨refused, (planRun_outcome (exampleSources "on") (exampleFlags 1)).2.2.2 _ refused⟩
  · obtain ⟨plan, planned⟩ : ∃ plan, planRun (exampleSources "on") {} = .ok plan :=
      exists_eq_ok_of_isOk (by decide +kernel)
    exact ⟨plan, planned, (planRun_outcome (exampleSources "on") {}).2.2.1 plan planned⟩

end

end ChartOperator
