import ChartOperator.Proofs.Addresses
import ChartOperator.Proofs.Gates
import ChartOperator.Proofs.Planning

/-!
# Bad configurations

The options for the manager come out of a configuration, unless it is bad: it has to pass every
stage of the plan, and the addresses of both servers have to be accepted.  If a stage of the plan
fails, a run has not looked for a client yet, and it comes to the same end whatever cluster there
is.  The addresses are looked at only once there is a client, so that a run with a bad address and
without a client fails because it has no client.
-/

namespace ChartOperator

/-! ## Checks of a configuration -/

/-- What comes out of a configuration alone: the plan of a run and the options for its manager. -/
def configure (sources : ConfigSources) (flags : Flags) :
    Except OperatorError (StartupPlan × ManagerOptions) := do
  let plan ← planRun sources flags
  let options ← (optionsOf plan).mapError fun cause => .manager (.bindAddress cause)
  .ok (plan, options)

theorem configure_eq_error_iff {sources : ConfigSources} {flags : Flags} {e : OperatorError} :
    configure sources flags = .error e ↔
      planRun sources flags = .error e ∨
        ∃ plan, planRun sources flags = .ok plan ∧
          ∃ cause, optionsOf plan = .error cause ∧ .manager (.bindAddress cause) = e := by
  simp only [configure, bind_eq_error_iff, mapError_eq_error_iff, reduceCtorEq, and_false,
    exists_false, or_false]

/-- The address of a server, as it is configured. -/
def Settings.addressOf (settings : Settings) : Server → String
  | .probes => settings.healthProbeBindAddress
  | .metrics => settings.metricsBindAddress

/-- A check that a configuration has to pass. -/
inductive ConfigCheck where
  | planning (stage : PlanStage)
  /-- A server has to be able to listen on its address. -/
  | address (server : Server)

namespace ConfigCheck

/-- The checks in their order. -/
def all : List ConfigCheck :=
  PlanStage.all.map .planning ++ [.address .metrics, .address .probes]

/-- The error of a check, if it fails.  A stage is looked at whatever becomes of the others, and an
address if there is a plan. -/
def failure? (sources : ConfigSources) (flags : Flags) : ConfigCheck → Option OperatorError
  | .planning stage => stage.failure? sources flags
  | .address server => do
      let plan ← (planRun sources flags).toOption
      let cause ← causeOf? (BindAddress.normalize (plan.settings.addressOf server))
      return .manager (.bindAddress cause)

/-- A check that fails with an error after all checks before it are passed. -/
def FailsFirst (sources : ConfigSources) (flags : Flags) (check : ConfigCheck)
    (e : OperatorError) : Prop :=
  ∃ before after, all = before ++ check :: after ∧ check.failure? sources flags = some e ∧
    ∀ earlier ∈ before, earlier.failure? sources flags = none

variable {sources : ConfigSources} {flags : Flags} {e : OperatorError}

theorem failsFirst_of_all_isNone {check : ConfigCheck} (before : List ConfigCheck)
    {after : List ConfigCheck} (split : all = before ++ check :: after)
    (fails : check.failure? sources flags = some e)
    (passed : before.all fun earlier => (earlier.failure? sources flags).isNone) :
    check.FailsFirst sources flags e := by
  refine ⟨before, after, split, fails, ?_⟩
  intro earlier mem
  exact Option.isNone_iff_eq_none.mp (List.all_eq_true.mp passed earlier mem)

theorem findSome?_planning (sources : ConfigSources) (flags : Flags) :
    (PlanStage.all.map planning).findSome? (failure? sources flags) =
      causeOf? (planRun sources flags) := by
  rw [List.findSome?_map, causeOf?_planRun]
  rfl

theorem failure?_address {plan : StartupPlan} (planned : planRun sources flags = .ok plan)
    (server : Server) :
    failure? sources flags (.address server) =
      (causeOf? (BindAddress.normalize (plan.settings.addressOf server))).map
        fun cause => .manager (.bindAddress cause) := by
  rw [failure?, planned]
  change (causeOf? _).bind _ = _
  cases causeOf? (BindAddress.normalize (plan.settings.addressOf server)) with
  | none => rfl
  | some cause => rfl

/-- Of two bad addresses that for the metrics counts. -/
theorem findSome?_address {plan : StartupPlan} (planned : planRun sources flags = .ok plan) :
    [address .metrics, address .probes].findSome? (failure? sources flags) =
      (causeOf? (optionsOf plan)).map fun cause => .manager (.bindAddress cause) := by
  simp only [List.findSome?, failure?_address planned, Settings.addressOf, optionsOf,
    ManagerOptions.ofSettings]
  cases BindAddress.normalize plan.settings.metricsBindAddress with
  | error cause => rfl
  | ok metrics =>
      cases BindAddress.normalize plan.settings.healthProbeBindAddress with
      | error cause => rfl
      | ok probes => rfl

theorem causeOf?_configure (sources : ConfigSources) (flags : Flags) :
    causeOf? (configure sources flags) = all.findSome? (failure? sources flags) := by
  rw [all, List.findSome?_append, findSome?_planning, configure]
  cases planned : planRun sources flags with
  | error e => rfl
  | ok plan =>
      rw [findSome?_address planned]
      change causeOf? ((optionsOf plan).mapError _ >>= _) = (causeOf? (optionsOf plan)).map _
      cases optionsOf plan with
      | error cause => rfl
      | ok options => rfl

/-- A configuration is bad exactly if some check fails, and the first one that does gives the
error. -/
theorem exists_failsFirst_iff :
    (∃ check : ConfigCheck, check.FailsFirst sources flags e) ↔
      configure sources flags = .error e := by
  rw [← causeOf?_eq_some_iff, causeOf?_configure, List.findSome?_eq_some_iff]
  constructor
  · rintro ⟨check, before, after, split, fails, passed⟩
    exact ⟨before, check, after, split, fails, passed⟩
  · rintro ⟨before, check, after, split, fails, passed⟩
    exact ⟨check, before, after, split, fails, passed⟩

namespace FailsFirst

/-- Without a plan the first check that fails is a stage of the plan. -/
theorem planRun_eq_error {stage : PlanStage}
    (first : (planning stage).FailsFirst sources flags e) :
    planRun sources flags = .error e := by
  rcases configure_eq_error_iff.mp (exists_failsFirst_iff.mp ⟨_, first⟩) with
    refused | ⟨plan, planned, -⟩
  · exact refused
  · -- With a plan, all of its stages are passed.
    obtain ⟨before, after, split, fails, -⟩ := first
    have listed : planning stage ∈ PlanStage.all.map planning := by
      have mem : planning stage ∈ all := by simp [split]
      simpa [all] using mem
    have passed := findSome?_planning sources flags
    rw [planned] at passed
    exact absurd (List.findSome?_eq_none_iff.mp passed _ listed) (by simp [fails])

/-- If an address is the first check that fails, there is a plan, but there are no options. -/
theorem optionsOf_eq_error {server : Server}
    (first : (address server).FailsFirst sources flags e) :
    ∃ plan cause, planRun sources flags = .ok plan ∧ optionsOf plan = .error cause ∧
      .manager (.bindAddress cause) = e := by
  rcases configure_eq_error_iff.mp (exists_failsFirst_iff.mp ⟨_, first⟩) with
    refused | ⟨plan, planned, cause, noOptions, rfl⟩
  · obtain ⟨-, -, -, fails, -⟩ := first
    simp [failure?, refused, Except.toOption] at fails
  · exact ⟨plan, cause, planned, noOptions, rfl⟩

end FailsFirst

end ConfigCheck

/-! ## When a run looks for a client -/

section

variable {flags : Flags} {around other : Surroundings} {e : OperatorError}

theorem announcePlan_of_refused {sources : ConfigSources}
    (refused : planRun sources flags = .error e) :
    announcePlan sources flags = ⟨[.log .version], .error e⟩ := by
  rw [announcePlan, refused]
  rfl

/-- A run without a plan ends at once. -/
theorem runOperator_of_refused (refused : planRun around.sources flags = .error e) :
    runOperator flags around = ⟨[.log .version], .error e⟩ := by
  rw [runOperator, announcePlan_of_refused refused]
  rfl

/-- A run looks for a client exactly if it has a plan. -/
theorem inferClient_mem_acts_iff :
    .inferClient ∈ (runOperator flags around).acts ↔
      ∃ plan, planRun around.sources flags = .ok plan := by
  cases planned : planRun around.sources flags with
  | error e => simp [runOperator_of_refused planned]
  | ok plan =>
      have announced : (announcePlan around.sources flags).result = .ok plan := by
        rw [result_announcePlan, planned]
      rw [runOperator, Attempt.acts_bind_of_ok announced, Attempt.acts_bind_of_ok (a := ()) rfl]
      simp [Attempt.act]

/-- A run that fails without having looked for a client. -/
structure FailsUnconnected (flags : Flags) (around : Surroundings) (e : OperatorError) : Prop where
  result : (runOperator flags around).result = .error e
  noClient : .inferClient ∉ (runOperator flags around).acts

/-- A run fails without having looked for a client exactly if there is no plan. -/
theorem failsUnconnected_iff :
    FailsUnconnected flags around e ↔ planRun around.sources flags = .error e := by
  constructor
  · rintro ⟨result, noClient⟩
    cases planned : planRun around.sources flags with
    | error other =>
        rw [runOperator_of_refused planned] at result
        rw [Except.error.inj result]
    | ok plan => exact absurd (inferClient_mem_acts_iff.mpr ⟨plan, planned⟩) noClient
  · intro refused
    constructor
    case result => rw [runOperator_of_refused refused]
    case noClient => simp [runOperator_of_refused refused]

/-- With a bad address a run does not get beyond its client. -/
theorem runOperator_of_badAddress {plan : StartupPlan} {cause : AddressError}
    (planned : planRun around.sources flags = .ok plan)
    (noOptions : optionsOf plan = .error cause) :
    runOperator flags around =
      ⟨(announcePlan around.sources flags).acts ++ [.inferClient],
        match around.cluster with
        | .ok _ => .error (.manager (.bindAddress cause))
        | .error fault => .error (.client fault)⟩ := by
  have announced : (announcePlan around.sources flags).result = .ok plan := by
    rw [result_announcePlan, planned]
  have unprepared : prepareManager plan = ⟨[], .error (.manager (.bindAddress cause))⟩ := by
    have refused : ManagerOptions.ofSettings plan.settings plan.scope.cacheStrategy =
        .error cause := noOptions
    rw [prepareManager, refused]
    rfl
  rw [runOperator, Attempt.bind_of_ok announced, unprepared]
  cases around.cluster with
  | error fault => rfl
  | ok cluster => rfl

/-- What a process does depends on the sources and on its run alone. -/
theorem runProcess_congr {arguments : List Argument} (sameSources : other.sources = around.sources)
    (sameRun : ∀ options, CommandLine.parse arguments = .ok options →
      runOperator options.flags other = runOperator options.flags around) :
    runProcess arguments other = runProcess arguments around := by
  unfold runProcess
  cases parsed : CommandLine.parse arguments with
  | error e => rfl
  | ok options => simp only [sameSources, runLogged, sameRun options parsed]

end

/-- A configuration is bad exactly if some check fails, and the first one that does gives the error.
If this is a stage of the plan, a run fails with the error without having looked for a client, and
nothing else around it makes a difference to the run or to its process.  If this is the address of a
server, a run looks for a client and does nothing more: if there is a client, it fails with the
error, and otherwise because there is none. -/
theorem runOperator_of_failsFirst (sources : ConfigSources) (flags : Flags) :
    (∀ e, configure sources flags = .error e ↔
      ∃ check : ConfigCheck, check.FailsFirst sources flags e) ∧
    (∀ stage e, (ConfigCheck.planning stage).FailsFirst sources flags e →
      ∀ around, around.sources = sources →
        FailsUnconnected flags around e ∧
        ∀ other, other.sources = sources →
          runOperator flags other = runOperator flags around ∧
          ∀ arguments options, CommandLine.parse arguments = .ok options →
            options.flags = flags → runProcess arguments other = runProcess arguments around) ∧
    ∀ server e, (ConfigCheck.address server).FailsFirst sources flags e →
      ∀ around, around.sources = sources →
        (runOperator flags around).acts = (announcePlan sources flags).acts ++ [.inferClient] ∧
        (∀ act ∈ (runOperator flags around).acts, act.serves = false) ∧
        (∀ cluster, around.cluster = .ok cluster →
          (runOperator flags around).result = .error e) ∧
        ∀ fault, around.cluster = .error fault →
          (runOperator flags around).result = .error (.client fault) := by
  refine ⟨fun e => ConfigCheck.exists_failsFirst_iff.symm, ?_, ?_⟩
  · rintro stage e first around rfl
    have refused := first.planRun_eq_error
    refine ⟨failsUnconnected_iff.mpr refused, ?_⟩
    intro other sameSources
    have sameRun : runOperator flags other = runOperator flags around := by
      rw [runOperator_of_refused refused, runOperator_of_refused (sameSources ▸ refused)]
    refine ⟨sameRun, ?_⟩
    rintro arguments options parsed rfl
    apply runProcess_congr sameSources
    intro options' parsed'
    obtain rfl := Except.ok.inj (parsed.symm.trans parsed')
    exact sameRun
  · rintro server e first around rfl
    obtain ⟨plan, cause, planned, noOptions, rfl⟩ := first.optionsOf_eq_error
    have run := runOperator_of_badAddress planned noOptions
    refine ⟨by rw [run], ?_, ?_, ?_⟩
    · intro act mem
      rw [run] at mem
      rcases List.mem_append.mp mem with announced | inferring
      · exact (isPreparatory_announcePlan around.sources flags act announced).serves_eq_false
      · obtain rfl := List.mem_singleton.mp inferring
        rfl
    · intro cluster connected
      rw [run, connected]
    · intro fault unconnected
      rw [run, unconnected]

/-- The surroundings of the example without a client. -/
def exampleUnconnected : Surroundings :=
  { exampleSurroundings exampleChart with
    cluster := .error (.noConfiguration ⟨"no configuration is found"⟩) }

/-- A limit that allows no reconcile. -/
def exampleZeroLimit : Flags := { maxConcurrentReconciles := some 0 }

/-- An address whose port is no number. -/
def exampleBadAddress : Flags := { healthProbeBindAddress := some ":x" }

theorem failsFirst_exampleBadAddress :
    (ConfigCheck.address .probes).FailsFirst exampleUnconnected.sources exampleBadAddress
      (.manager (.bindAddress ⟨":x", .badPort⟩)) :=
  ConfigCheck.failsFirst_of_all_isNone ConfigCheck.all.dropLast rfl rfl (by decide +kernel)

/-- A limit of zero is the error whether or not there is a client.  A bad address is the error only
if there is one. -/
theorem runOperator_of_failsFirst_exampleUnconnected :
    FailsUnconnected exampleZeroLimit exampleUnconnected (.config .zeroConcurrency) ∧
      runProcess (["helm-operator", "run", "--max-concurrent-reconciles=0"].map Utf8.ofString)
          (exampleSurroundings exampleChart) =
        runProcess (["helm-operator", "run", "--max-concurrent-reconciles=0"].map Utf8.ofString)
          exampleUnconnected ∧
      (runOperator exampleBadAddress (exampleSurroundings exampleChart)).result =
        .error (.manager (.bindAddress ⟨":x", .badPort⟩)) ∧
      ∃ fault, (runOperator exampleBadAddress exampleUnconnected).result =
        .error (.client fault) := by
  have zeroLimit : (ConfigCheck.planning .limit).FailsFirst exampleUnconnected.sources
      exampleZeroLimit (.config .zeroConcurrency) :=
    ConfigCheck.failsFirst_of_all_isNone (ConfigCheck.all.take 7) rfl rfl (by decide +kernel)
  have parsed : CommandLine.parse
      (["helm-operator", "run", "--max-concurrent-reconciles=0"].map Utf8.ofString) =
        .ok { flags := exampleZeroLimit } := by
    rw [← toOption_eq_some_iff]
    decide +kernel
  obtain ⟨-, early, -⟩ := runOperator_of_failsFirst exampleUnconnected.sources exampleZeroLimit
  obtain ⟨-, -, late⟩ := runOperator_of_failsFirst exampleUnconnected.sources exampleBadAddress
  obtain ⟨fails, same⟩ := early _ _ zeroLimit exampleUnconnected rfl
  have badAddress := late _ _ failsFirst_exampleBadAddress
  refine ⟨fails, ?_, ?_, ?_⟩
  · exact (same (exampleSurroundings exampleChart) rfl).2 _ _ parsed rfl
  · exact (badAddress (exampleSurroundings exampleChart) rfl).2.2.1 _ rfl
  · exact ⟨_, (badAddress exampleUnconnected rfl).2.2.2 _ rfl⟩

/-- A configuration with a bad address is bad, but a run with it looks for a client, and without one
it fails with another error than with one. -/
theorem not_failsUnconnected_exampleBadAddress :
    configure exampleUnconnected.sources exampleBadAddress =
        .error (.manager (.bindAddress ⟨":x", .badPort⟩)) ∧
      ¬ FailsUnconnected exampleBadAddress exampleUnconnected
        (.manager (.bindAddress ⟨":x", .badPort⟩)) ∧
      .inferClient ∈ (runOperator exampleBadAddress (exampleSurroundings exampleChart)).acts ∧
      (runOperator exampleBadAddress exampleUnconnected).result ≠
        (runOperator exampleBadAddress (exampleSurroundings exampleChart)).result := by
  obtain ⟨plan, cause, planned, noOptions, -⟩ := failsFirst_exampleBadAddress.optionsOf_eq_error
  have plannedConnected :
      planRun (exampleSurroundings exampleChart).sources exampleBadAddress = .ok plan := planned
  refine ⟨ConfigCheck.exists_failsFirst_iff.mp ⟨_, failsFirst_exampleBadAddress⟩, ?_, ?_, ?_⟩
  · rw [failsUnconnected_iff, planned]
    simp
  · exact inferClient_mem_acts_iff.mpr ⟨plan, plannedConnected⟩
  · rw [runOperator_of_badAddress planned noOptions,
      runOperator_of_badAddress plannedConnected noOptions]
    simp [exampleUnconnected, exampleSurroundings]

end ChartOperator
