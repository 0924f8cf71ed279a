import ChartOperator.Proofs.Configuration

/-!
# Precedence of the sources

An accepted configuration has every setting from the first source that sets it.  Which source this
is depends only on what the sources say about this setting, so no setting depends on another one.
-/

namespace ChartOperator

/-- Where the value of a setting can come from. -/
inductive SettingSource where
  | flag
  | environment
  | file
  /-- The older variable for the leader election id. -/
  | operatorName
  | defaults
  deriving DecidableEq

/-- The sources; earlier ones take precedence. -/
def SettingSource.all : List SettingSource :=
  [.flag, .environment, .file, .operatorName, .defaults]

/-- A single setting. -/
inductive SettingField where
  | configFile
  | watchesFile
  | metricsBindAddress
  | healthProbeBindAddress
  | leaderElection
  | leaderElectionId
  | leaderElectionNamespace
  | maxConcurrentReconciles
  | reconcilePeriod
  | watchedNamespace
  | webhookCertDir
  | webhookHost
  | webhookPort
  deriving DecidableEq

namespace SettingField

/-- What a setting is set to. -/
@[reducible] def Value : SettingField → Type
  | .configFile | .watchesFile => Path
  | .leaderElection => Bool
  | .maxConcurrentReconciles | .webhookPort => Nat
  | .reconcilePeriod => Duration
  | .metricsBindAddress | .healthProbeBindAddress | .leaderElectionId | .leaderElectionNamespace
  | .watchedNamespace | .webhookCertDir | .webhookHost => String

/-- The variable that holds a setting. -/
def variableOf? : SettingField → Option Variable
  | .watchesFile => some .watchesFile
  | .metricsBindAddress => some .metricsBindAddress
  | .healthProbeBindAddress => some .healthProbeBindAddress
  | .leaderElection => some .leaderElect
  | .leaderElectionId => some .leaderElectionId
  | .leaderElectionNamespace => some .leaderElectionNamespace
  | .maxConcurrentReconciles => some .maxConcurrentReconciles
  | .reconcilePeriod => some .reconcilePeriod
  | .configFile | .watchedNamespace | .webhookCertDir | .webhookHost | .webhookPort => none

/-- What the text of a variable stands for, if it is well-formed. -/
def read : (field : SettingField) → String → Option field.Value
  | .watchesFile => fun text => some (Path.ofString text)
  | .leaderElection => fun text => (VariableSettings.readBool text).toOption
  | .maxConcurrentReconciles => fun text => (VariableSettings.readNumber text).toOption
  | .reconcilePeriod => fun text => (VariableSettings.readDuration text).toOption
  | .metricsBindAddress | .healthProbeBindAddress | .leaderElectionId
  | .leaderElectionNamespace => some
  | .configFile | .watchedNamespace | .webhookCertDir | .webhookHost | .webhookPort =>
      fun _ => none

end SettingField

/-- A setting in a merged configuration. -/
def Settings.value? (settings : Settings) : (field : SettingField) → Option field.Value
  | .configFile => settings.configFile
  | .watchesFile => some settings.watchesFile
  | .metricsBindAddress => some settings.metricsBindAddress
  | .healthProbeBindAddress => some settings.healthProbeBindAddress
  | .leaderElection => some settings.leaderElection.enabled
  | .leaderElectionId => settings.leaderElection.id
  | .leaderElectionNamespace => settings.leaderElection.lockNamespace
  | .maxConcurrentReconciles => some settings.maxConcurrentReconciles
  | .reconcilePeriod => some settings.reconcilePeriod
  | .watchedNamespace => settings.watchedNamespace
  | .webhookCertDir => some settings.webhook.certDir
  | .webhookHost => some settings.webhook.host
  | .webhookPort => some settings.webhook.port

/-- What the flags set, be it to an empty text. -/
def Flags.value? (flags : Flags) : (field : SettingField) → Option field.Value
  | .configFile => flags.configFile
  | .watchesFile => flags.watchesFile
  | .metricsBindAddress => flags.metricsBindAddress <|> flags.metricsAddr
  | .healthProbeBindAddress => flags.healthProbeBindAddress
  | .leaderElection => flags.leaderElect <|> flags.enableLeaderElection
  | .leaderElectionId => flags.leaderElectionId
  | .leaderElectionNamespace => flags.leaderElectionNamespace
  | .maxConcurrentReconciles => flags.maxConcurrentReconciles
  | .reconcilePeriod => flags.reconcilePeriod
  | .watchedNamespace | .webhookCertDir | .webhookHost | .webhookPort => none

/-- What the variables set, unless they are empty. -/
def Environment.value? (env : Environment) (field : SettingField) : Option field.Value :=
  (field.variableOf?.bind env.nonEmpty?).bind field.read

/-- What the older variable for the leader election id sets, unless it is empty. -/
def Environment.operatorName? (env : Environment) : (field : SettingField) → Option field.Value
  | .leaderElectionId => env.nonEmpty? .operatorName
  | _ => none

/-- What the configuration file sets; an empty text sets nothing. -/
def ConfigFile.value? (file : ConfigFile) : (field : SettingField) → Option field.Value
  | .metricsBindAddress => nonEmpty file.metricsBindAddress
  | .healthProbeBindAddress => nonEmpty file.healthProbeBindAddress
  | .leaderElection => file.leaderElection.leaderElect
  | .leaderElectionId => nonEmpty file.leaderElection.resourceName
  | .leaderElectionNamespace => nonEmpty file.leaderElection.resourceNamespace
  | .watchedNamespace => nonEmpty file.cacheNamespace
  | .webhookCertDir => nonEmpty file.webhook.certDir
  | .webhookHost => nonEmpty file.webhook.host
  | .webhookPort => file.webhook.port
  | .configFile | .watchesFile | .maxConcurrentReconciles | .reconcilePeriod => none

/-- The defaults; some settings may stay unset. -/
def Defaults.value? (defaults : Defaults) : (field : SettingField) → Option field.Value
  | .watchesFile => some defaults.watchesFile
  | .metricsBindAddress => some defaults.metricsBindAddress
  | .healthProbeBindAddress => some defaults.healthProbeBindAddress
  | .leaderElection => some defaults.leaderElection
  | .maxConcurrentReconciles => some defaults.maxConcurrentReconciles
  | .reconcilePeriod => some defaults.reconcilePeriod
  | .webhookCertDir | .webhookHost => some ""
  | .webhookPort => some 0
  | .configFile | .leaderElectionId | .leaderElectionNamespace | .watchedNamespace => none

/-- Two environments have the same variables for settings. -/
def SameVariables (env other : Environment) : Prop :=
  ∀ (field : SettingField) v, field.variableOf? = some v → other.get? v = env.get? v

/-- Everything from which a configuration is merged. -/
structure ConfigInputs where
  flags : Flags
  environment : Environment
  file : ConfigFile
  defaults : Defaults

namespace ConfigInputs

/-- The merged configuration, once the variables are read. -/
def resolution (inputs : ConfigInputs) : Except ConfigError Resolution := do
  let values ← VariableSettings.ofEnvironment inputs.environment
  resolve ⟨inputs.flags, values, inputs.file, inputs.defaults⟩

/-- What a source says about a setting. -/
def offer (inputs : ConfigInputs) (field : SettingField) : SettingSource → Option field.Value
  | .flag => inputs.flags.value? field
  | .environment => inputs.environment.value? field
  | .file => inputs.file.value? field
  | .operatorName => inputs.environment.operatorName? field
  | .defaults => inputs.defaults.value? field

end ConfigInputs

namespace SameVariables

variable {env other : Environment}

theorem nonEmpty? (same : SameVariables env other) (field : SettingField) (v : Variable)
    (held : field.variableOf? = some v) : other.nonEmpty? v = env.nonEmpty? v := by
  rw [Environment.nonEmpty?, Environment.nonEmpty?, same field v held]

theorem value? (same : SameVariables env other) (field : SettingField) :
    other.value? field = env.value? field := by
  unfold Environment.value?
  cases held : field.variableOf? with
  | none => rfl
  | some v =>
      rw [Option.bind_some, Option.bind_some, same.nonEmpty? field v held]

end SameVariables

namespace VariableSettings

variable {env : Environment} {values : VariableSettings}

/-- A setting among those of the environment. -/
def value? (values : VariableSettings) : (field : SettingField) → Option field.Value
  | .watchesFile => values.watchesFile
  | .metricsBindAddress => values.metricsBindAddress
  | .healthProbeBindAddress => values.healthProbeBindAddress
  | .leaderElection => values.leaderElect
  | .leaderElectionId => values.leaderElectionId
  | .leaderElectionNamespace => values.leaderElectionNamespace
  | .maxConcurrentReconciles => values.maxConcurrentReconciles
  | .reconcilePeriod => values.reconcilePeriod
  | .configFile | .watchedNamespace | .webhookCertDir | .webhookHost | .webhookPort => none

/-- What an accepted environment sets is what its texts stand for. -/
theorem Reads.value? (reads : Reads env values) (field : SettingField) :
    values.value? field = env.value? field := by
  cases field with
  | watchesFile => exact reads.watchesFile.trans Option.map_eq_bind
  | metricsBindAddress => exact reads.metricsBindAddress.trans (Option.bind_fun_some _).symm
  | healthProbeBindAddress =>
      exact reads.healthProbeBindAddress.trans (Option.bind_fun_some _).symm
  | leaderElection => exact (readVariable_eq_ok_iff.mp reads.leaderElect).2
  | leaderElectionId => exact reads.leaderElectionId.trans (Option.bind_fun_some _).symm
  | leaderElectionNamespace =>
      exact reads.leaderElectionNamespace.trans (Option.bind_fun_some _).symm
  | maxConcurrentReconciles => exact (readVariable_eq_ok_iff.mp reads.maxConcurrentReconciles).2
  | reconcilePeriod => exact (readVariable_eq_ok_iff.mp reads.reconcilePeriod).2
  | configFile | watchedNamespace | webhookCertDir | webhookHost | webhookPort => rfl

/-- The variable of a setting sets it exactly if it is neither unset nor empty. -/
theorem Reads.isSome_value? (reads : Reads env values) {field : SettingField} {v : Variable}
    (held : field.variableOf? = some v) :
    (env.value? field).isSome = (env.nonEmpty? v).isSome := by
  rw [← reads.value?]
  cases field with
  | watchesFile =>
      obtain rfl := Option.some.inj held
      exact (congrArg Option.isSome reads.watchesFile).trans Option.isSome_map
  | metricsBindAddress =>
      obtain rfl := Option.some.inj held
      exact congrArg Option.isSome reads.metricsBindAddress
  | healthProbeBindAddress =>
      obtain rfl := Option.some.inj held
      exact congrArg Option.isSome reads.healthProbeBindAddress
  | leaderElection =>
      obtain rfl := Option.some.inj held
      exact isSome_of_readVariable reads.leaderElect
  | leaderElectionId =>
      obtain rfl := Option.some.inj held
      exact congrArg Option.isSome reads.leaderElectionId
  | leaderElectionNamespace =>
      obtain rfl := Option.some.inj held
      exact congrArg Option.isSome reads.leaderElectionNamespace
  | maxConcurrentReconciles =>
      obtain rfl := Option.some.inj held
      exact isSome_of_readVariable reads.maxConcurrentReconciles
  | reconcilePeriod =>
      obtain rfl := Option.some.inj held
      exact isSome_of_readVariable reads.reconcilePeriod
  | configFile | watchedNamespace | webhookCertDir | webhookHost | webhookPort => contradiction

/-- Environments with the same variables for settings are read alike, up to the older variable. -/
theorem ofEnvironment_congr {other : Environment} (same : SameVariables env other) :
    ofEnvironment other = (ofEnvironment env).map fun values =>
      { values with operatorName := other.get? .operatorName } := by
  have nonEmpty := same.nonEmpty?
  have read : ∀ (field : SettingField) v {α : Type} (read : String → Except VariableFault α),
      field.variableOf? = some v → readVariable other v read = readVariable env v read := by
    intro field v α read held
    rw [readVariable, readVariable, nonEmpty field v held]
  unfold ofEnvironment
  rw [read .leaderElection .leaderElect readBool rfl,
    read .maxConcurrentReconciles .maxConcurrentReconciles readNumber rfl,
    read .reconcilePeriod .reconcilePeriod readDuration rfl, nonEmpty .watchesFile .watchesFile rfl,
    nonEmpty .metricsBindAddress .metricsBindAddress rfl,
    nonEmpty .healthProbeBindAddress .healthProbeBindAddress rfl,
    nonEmpty .leaderElectionId .leaderElectionId rfl,
    nonEmpty .leaderElectionNamespace .leaderElectionNamespace rfl]
  cases readVariable env .leaderElect readBool with
  | error e => rfl
  | ok elect =>
      cases readVariable env .maxConcurrentReconciles readNumber with
      | error e => rfl
      | ok limit =>
          cases readVariable env .reconcilePeriod readDuration with
          | error e => rfl
          | ok period => rfl

theorem ofEnvironment_eq_of_same {other : Environment} (same : SameVariables env other)
    (older : other.get? .operatorName = env.get? .operatorName) :
    ofEnvironment other = ofEnvironment env := by
  rw [ofEnvironment_congr same, older]
  cases read : ofEnvironment env with
  | error e => rfl
  | ok values =>
      rw [← (ofEnvironment_eq_ok_iff.mp read).operatorName]
      rfl

end VariableSettings

theorem getD_nonEmpty (text : Option String) : (nonEmpty text).getD "" = text.getD "" := by
  cases text with
  | none => rfl
  | some text =>
      by_cases empty : text = ""
      · simp [nonEmpty, Option.filter, empty]
      · simp [nonEmpty, Option.filter, empty]

/-- A merged setting comes from the first source that sets it. -/
theorem Sources.value?_settings (s : Sources) {env : Environment}
    (older : s.environment.operatorName = env.get? .operatorName) (field : SettingField) :
    s.settings.value? field =
      (s.flags.value? field <|> s.environment.value? field <|> s.file.value? field <|>
        env.operatorName? field <|> s.defaults.value? field) := by
  have olderText : nonEmpty s.environment.operatorName = env.nonEmpty? .operatorName := by
    rw [older]
    rfl
  cases field <;>
    simp [Settings.value?, Flags.value?, VariableSettings.value?, ConfigFile.value?,
      Environment.operatorName?, Defaults.value?, settings, leaderElection, leaderElectionId,
      webhook, Flags.metricsAddress, Flags.leaderElection, olderText, getD_nonEmpty]

/-- Settings with the same values are the same. -/
theorem Settings.eq_of_value? {settings others : Settings}
    (same : ∀ field, settings.value? field = others.value? field) : settings = others := by
  rcases settings with ⟨_, _, _, _, ⟨_, _, _⟩, _, _, _, _, _, _⟩
  rcases others with ⟨_, _, _, _, ⟨_, _, _⟩, _, _, _, _, _, _⟩
  obtain rfl := same .configFile
  obtain rfl := Option.some.inj (same .watchesFile)
  obtain rfl := Option.some.inj (same .metricsBindAddress)
  obtain rfl := Option.some.inj (same .healthProbeBindAddress)
  obtain rfl := Option.some.inj (same .leaderElection)
  obtain rfl := same .leaderElectionId
  obtain rfl := same .leaderElectionNamespace
  obtain rfl := Option.some.inj (same .maxConcurrentReconciles)
  obtain rfl := Option.some.inj (same .reconcilePeriod)
  obtain rfl := same .watchedNamespace
  obtain rfl := Option.some.inj (same .webhookCertDir)
  obtain rfl := Option.some.inj (same .webhookHost)
  obtain rfl := Option.some.inj (same .webhookPort)
  rfl

theorem findSome?_cons_eq_or {α : Type} {β : Type} (f : α → Option β) (a : α) (rest : List α) :
    (a :: rest).findSome? f = (f a).or (rest.findSome? f) := by
  rw [List.findSome?_cons]
  cases f a with
  | none => rfl
  | some b => rfl

/-- What comes behind the first element with a result does not matter for a search. -/
theorem findSome?_eq_of_same_before {α : Type} {β : Type} {f g : α → Option β}
    {before after : List α} {winner : α} (found : (f winner).isSome = true)
    (same : ∀ a ∈ before ++ [winner], g a = f a) :
    (before ++ winner :: after).findSome? g = (before ++ winner :: after).findSome? f := by
  induction before with
  | nil =>
      have sameWinner : g winner = f winner := same winner (by simp)
      rw [List.nil_append, List.findSome?_cons_of_isSome found,
        List.findSome?_cons_of_isSome (sameWinner ▸ found), sameWinner]
  | cons first rest ih =>
      rw [List.cons_append, findSome?_cons_eq_or, findSome?_cons_eq_or, same first (by simp),
        ih fun a mem => same a (List.mem_cons_of_mem _ mem)]

namespace ConfigInputs

variable {inputs : ConfigInputs} {resolution : Resolution}

theorem resolution_eq_ok_iff :
    inputs.resolution = .ok resolution ↔
      ∃ values, VariableSettings.ofEnvironment inputs.environment = .ok values ∧
        resolve ⟨inputs.flags, values, inputs.file, inputs.defaults⟩ = .ok resolution :=
  bind_eq_ok_iff

/-- An accepted configuration has every setting from the first source that offers it. -/
theorem value?_of_resolution (accepted : inputs.resolution = .ok resolution)
    (field : SettingField) :
    resolution.settings.value? field = SettingSource.all.findSome? (inputs.offer field) := by
  rcases resolution_eq_ok_iff.mp accepted with ⟨values, read, merged⟩
  rcases resolve_eq_ok_iff.mp merged with ⟨-, -, rfl⟩
  have reads := VariableSettings.ofEnvironment_eq_ok_iff.mp read
  rw [Sources.value?_settings _ reads.operatorName field, reads.value? field]
  simp [SettingSource.all, findSome?_cons_eq_or, offer]

/-- In an accepted configuration the two names of a flag count alike. -/
theorem offer_flag_of_resolution (accepted : inputs.resolution = .ok resolution) :
    (∀ address, inputs.offer .metricsBindAddress .flag = some address ↔
      inputs.flags.metricsBindAddress = some address ∨ inputs.flags.metricsAddr = some address) ∧
    ∀ enabled, inputs.offer .leaderElection .flag = some enabled ↔
      inputs.flags.leaderElect = some enabled ∨
        inputs.flags.enableLeaderElection = some enabled := by
  rcases resolution_eq_ok_iff.mp accepted with ⟨values, -, merged⟩
  rcases resolve_eq_ok_iff.mp merged with ⟨noConflict, -, -⟩
  have notBoth := Flags.not_both_of_conflict? noConflict
  constructor
  · intro address
    exact Flags.orElse_eq_some_iff_of_not_both (notBoth .metricsAddr)
  · intro enabled
    exact Flags.orElse_eq_some_iff_of_not_both (notBoth .enableLeaderElection)

/-- The older variable makes a difference for the leader election id only. -/
theorem resolution_of_sameVariables (accepted : inputs.resolution = .ok resolution)
    {env : Environment} (same : SameVariables inputs.environment env) :
    ∃ other, { inputs with environment := env }.resolution = .ok other ∧
      ∀ field, field ≠ .leaderElectionId →
        other.settings.value? field = resolution.settings.value? field := by
  rcases resolution_eq_ok_iff.mp accepted with ⟨values, read, merged⟩
  rcases resolve_eq_ok_iff.mp merged with ⟨noConflict, positive, -⟩
  have otherRead : VariableSettings.ofEnvironment env =
      .ok { values with operatorName := env.get? .operatorName } := by
    rw [VariableSettings.ofEnvironment_congr same, read]
    rfl
  have otherAccepted : { inputs with environment := env }.resolution = .ok ⟨_, _⟩ :=
    resolution_eq_ok_iff.mpr
      ⟨_, otherRead, resolve_eq_ok_iff.mpr ⟨noConflict, positive, rfl⟩⟩
  refine ⟨_, otherAccepted, fun field different => ?_⟩
  have sameOffers : { inputs with environment := env }.offer field = inputs.offer field := by
    funext source
    cases source with
    | flag | file | defaults => rfl
    | environment => exact same.value? field
    | operatorName =>
        cases field with
        | leaderElectionId => contradiction
        | _ => rfl
  rw [value?_of_resolution otherAccepted, value?_of_resolution accepted, sameOffers]

/-- Each setting of an accepted configuration comes from the first source that offers it: a flag
under either name, a variable that is not empty, the file, the older variable, or the defaults.
What the sources say about other settings makes no difference, and neither do the sources behind
the first. -/
theorem resolution_precedence (inputs : ConfigInputs) :
    (∀ resolution, inputs.resolution = .ok resolution →
      (∀ field,
        resolution.settings.value? field = SettingSource.all.findSome? (inputs.offer field)) ∧
      (∀ address, inputs.offer .metricsBindAddress .flag = some address ↔
        inputs.flags.metricsBindAddress = some address ∨
          inputs.flags.metricsAddr = some address) ∧
      (∀ enabled, inputs.offer .leaderElection .flag = some enabled ↔
        inputs.flags.leaderElect = some enabled ∨
          inputs.flags.enableLeaderElection = some enabled) ∧
      (∀ field v, field.variableOf? = some v →
        ((inputs.offer field .environment).isSome = true ↔
          ∃ text, inputs.environment.get? v = some text ∧ text ≠ "")) ∧
      ∀ (other : ConfigInputs) otherResolution, other.resolution = .ok otherResolution →
        (∀ field, (∀ source, other.offer field source = inputs.offer field source) →
          otherResolution.settings.value? field = resolution.settings.value? field) ∧
        ((∀ field source, other.offer field source = inputs.offer field source) →
          otherResolution.settings = resolution.settings) ∧
        ∀ field before winner after, SettingSource.all = before ++ winner :: after →
          (inputs.offer field winner).isSome = true →
          (∀ source ∈ before ++ [winner],
            other.offer field source = inputs.offer field source) →
          otherResolution.settings.value? field = resolution.settings.value? field) ∧
    ∀ env, SameVariables inputs.environment env →
      (env.get? .operatorName = inputs.environment.get? .operatorName →
        VariableSettings.ofEnvironment env = VariableSettings.ofEnvironment inputs.environment ∧
          { inputs with environment := env }.resolution = inputs.resolution) ∧
      ∀ resolution, inputs.resolution = .ok resolution →
        ∃ other, { inputs with environment := env }.resolution = .ok other ∧
          ∀ field, field ≠ .leaderElectionId →
            other.settings.value? field = resolution.settings.value? field := by
  constructor
  · intro resolution accepted
    have fromFirst := value?_of_resolution accepted
    rcases offer_flag_of_resolution accepted with ⟨metrics, election⟩
    refine ⟨fromFirst, metrics, election, ?_, ?_⟩
    · intro field v held
      rcases resolution_eq_ok_iff.mp accepted with ⟨values, read, -⟩
      have reads := VariableSettings.ofEnvironment_eq_ok_iff.mp read
      rw [offer, reads.isSome_value? held, Option.isSome_iff_exists]
      simp [Environment.nonEmpty?, Option.filter_eq_some_iff]
    · intro other otherResolution otherAccepted
      have otherFromFirst := value?_of_resolution otherAccepted
      have independent : ∀ field,
          (∀ source, other.offer field source = inputs.offer field source) →
            otherResolution.settings.value? field = resolution.settings.value? field := by
        intro field same
        rw [otherFromFirst, fromFirst, funext same]
      refine ⟨independent, ?_, ?_⟩
      · intro same
        exact Settings.eq_of_value? fun field => independent field (same field)
      · intro field before winner after split offered same
        rw [otherFromFirst, fromFirst, split]
        exact findSome?_eq_of_same_before offered same
  · intro env same
    constructor
    · intro older
      have read := VariableSettings.ofEnvironment_eq_of_same same older
      refine ⟨read, ?_⟩
      rw [resolution, resolution, read]
    · intro resolution accepted
      exact resolution_of_sameVariables accepted same

/-- Every source sets something here, and an empty text only counts for a flag. -/
def exampleInputs : ConfigInputs where
  flags := { metricsAddr := some "" }
  environment name :=
    if name = Variable.leaderElect.name then some "yes"
    else if name = Variable.metricsBindAddress.name then some ":1"
    else if name = Variable.operatorName.name then some "older"
    else none
  file :=
    { healthProbeBindAddress := some ":2"
      leaderElection := { leaderElect := some false, resourceName := some "" } }
  defaults := { maxConcurrentReconciles := 4 }

theorem resolution_precedence_exampleInputs :
    ∃ resolution, exampleInputs.resolution = .ok resolution ∧
      resolution.settings.value? .metricsBindAddress = some "" ∧
      resolution.settings.value? .leaderElection = some true ∧
      resolution.settings.value? .healthProbeBindAddress = some ":2" ∧
      resolution.settings.value? .leaderElectionId = some "older" ∧
      resolution.settings.value? .maxConcurrentReconciles = some 4 := by
  obtain ⟨resolution, accepted⟩ : ∃ resolution, exampleInputs.resolution = .ok resolution :=
    exists_eq_ok_of_isOk (by decide +kernel)
  have fromFirst := ((resolution_precedence exampleInputs).1 resolution accepted).1
  refine ⟨resolution, accepted, ?_, ?_, ?_, ?_, ?_⟩
  · exact (fromFirst .metricsBindAddress).trans (by decide +kernel)
  · exact (fromFirst .leaderElection).trans (by decide +kernel)
  · exact (fromFirst .healthProbeBindAddress).trans (by decide +kernel)
  · exact (fromFirst .leaderElectionId).trans (by decide +kernel)
  · exact (fromFirst .maxConcurrentReconciles).trans (by decide +kernel)

end ConfigInputs

end ChartOperator
