import ChartOperator.Manager.Start
import ChartOperator.Proofs.Calls
import Mathlib.Data.List.Forall2
import Mathlib.Data.List.Nodup

/-!
# Health checks and the answers to probes

Of the checks that are added to a list, the first of each name is kept, and the others are refused
without a trace.  The report is about all kept checks, in order, whichever of them fail.  The pages
for liveness and readiness each answer with the report about their own checks.
-/

namespace ChartOperator

namespace HealthChecks

/-! ## Adding checks -/

/-- What comes out of adding some checks, one after the other, and the list after them. -/
def enterAll (list : HealthChecks) (calls : List HealthCheck) :
    List (Except DuplicateCheck Unit) × HealthChecks :=
  makeCalls (fun check list => (enter check).apply list) list calls

theorem enterAll_cons (list : HealthChecks) (check : HealthCheck) (rest : List HealthCheck) :
    list.enterAll (check :: rest) =
      (((enter check).apply list).1 :: (((enter check).apply list).2.enterAll rest).1,
        (((enter check).apply list).2.enterAll rest).2) := rfl

variable {list : HealthChecks}

theorem has_iff {name : String} :
    list.has name = true ↔ ∃ check ∈ list.checks, check.name = name := by
  simp [has]

/-- A check with a new name is appended.  Any other one is refused and changes nothing. -/
theorem enter_cases (check : HealthCheck) (list : HealthChecks) :
    (list.has check.name = false ∧
      (enter check).apply list = (.ok (), ⟨list.checks ++ [check]⟩)) ∨
    (list.has check.name = true ∧ (enter check).apply list = (.error ⟨check.name⟩, list)) := by
  rw [apply_enter]
  cases known : list.has check.name with
  | false => exact Or.inl ⟨rfl, rfl⟩
  | true => exact Or.inr ⟨rfl, rfl⟩

/-- The list grows by the checks that are accepted, in order. -/
theorem checks_enterAll (list : HealthChecks) (calls : List HealthCheck) :
    (list.enterAll calls).2.checks =
      list.checks ++ acceptedCalls calls (list.enterAll calls).1 := by
  induction calls generalizing list with
  | nil => simp [enterAll, makeCalls, acceptedCalls]
  | cons check rest ih =>
      rcases enter_cases check list with ⟨-, entered⟩ | ⟨-, entered⟩
      · simp [enterAll_cons, entered, ih]
      · simp [enterAll_cons, entered, ih]

/-- The check of a name is the one that the list has already, or else the first that is added. -/
theorem find?_enterAll (list : HealthChecks) (calls : List HealthCheck) (name : String) :
    (list.enterAll calls).2.checks.find? (·.name = name) =
      (list.checks.find? (·.name = name)).or (calls.find? (·.name = name)) := by
  induction calls generalizing list with
  | nil => simp [enterAll, makeCalls]
  | cons check rest ih =>
      rcases enter_cases check list with ⟨-, entered⟩ | ⟨known, entered⟩
      · simp only [enterAll_cons, entered, ih, List.find?_append, Option.or_assoc]
        by_cases same : check.name = name
        · simp [same]
        · simp [same]
      · simp only [enterAll_cons, entered, ih]
        by_cases same : check.name = name
        · -- The list has a check of this name, so neither the new one nor a later one is found.
          obtain ⟨earlier, mem, named⟩ := has_iff.mp known
          have found : (list.checks.find? (·.name = name)).isSome = true := by
            rw [List.find?_isSome]
            exact ⟨earlier, mem, decide_eq_true (named.trans same)⟩
          obtain ⟨first, isFirst⟩ := Option.isSome_iff_exists.mp found
          rw [isFirst, Option.some_or, Option.some_or]
        · simp [same]

/-- No two checks of a list have one name, whatever is added. -/
theorem nodup_enterAll (list : HealthChecks) (calls : List HealthCheck)
    (distinct : (list.checks.map (·.name)).Nodup) :
    ((list.enterAll calls).2.checks.map (·.name)).Nodup := by
  induction calls generalizing list with
  | nil => exact distinct
  | cons check rest ih =>
      rcases enter_cases check list with ⟨new, entered⟩ | ⟨-, entered⟩
      · simp only [enterAll_cons, entered]
        refine ih _ ?_
        have unused : check.name ∉ list.checks.map (·.name) := by
          intro mem
          obtain ⟨earlier, inList, named⟩ := List.mem_map.mp mem
          rw [has_iff.mpr ⟨earlier, inList, named⟩] at new
          contradiction
        rw [List.map_append, List.map_singleton, ← List.concat_eq_append]
        exact (List.nodup_concat _ _).mpr ⟨unused, distinct⟩
      · simp only [enterAll_cons, entered]
        exact ih list distinct

/-- Of the checks that are added to an empty list, the first of each name is kept, and the others
are refused without a trace. -/
structure KeepsFirst (calls : List HealthCheck) : Prop where
  answered : (enterAll {} calls).1.length = calls.length
  /-- What is refused is a check whose name was accepted before. -/
  outcome : ∀ before check after, calls = before ++ check :: after →
    (enterAll {} calls).1[before.length]? =
      some (if check.name ∈ (acceptedCalls before (enterAll {} calls).1).map (·.name) then
        .error ⟨check.name⟩ else .ok ())
  /-- Without a call that is refused, the others have the same outcomes and leave the same list. -/
  traceless : ∀ before check after e, calls = before ++ check :: after →
    (enterAll {} calls).1[before.length]? = some (.error e) →
    enterAll {} (before ++ after) =
      ((enterAll {} calls).1.eraseIdx before.length, (enterAll {} calls).2)
  kept : (enterAll {} calls).2.checks = acceptedCalls calls (enterAll {} calls).1
  distinct : ((enterAll {} calls).2.checks.map (·.name)).Nodup
  first : ∀ name, (enterAll {} calls).2.checks.find? (·.name = name) =
    calls.find? (·.name = name)

theorem keepsFirst (calls : List HealthCheck) : KeepsFirst calls where
  answered := by rw [enterAll, length_makeCalls]
  outcome := by
    rintro before check after rfl
    have names : (enterAll {} before).2.has check.name = true ↔
        check.name ∈ (acceptedCalls before (enterAll {} before).1).map (·.name) := by
      rw [has_iff, checks_enterAll, List.nil_append, List.mem_map]
    rw [enterAll, outcome_middle, acceptedCalls_append, ← enterAll, apply_enter]
    by_cases known : (enterAll {} before).2.has check.name = true
    · rw [if_pos known, if_pos (names.mp known)]
    · rw [if_neg known, if_neg (mt names.mpr known)]
  traceless := by
    rintro before check after e rfl refused
    rw [enterAll, outcome_middle] at refused
    rcases enter_cases check (enterAll {} before).2 with ⟨-, entered⟩ | ⟨-, entered⟩
    · rw [← enterAll, entered] at refused
      cases Option.some.inj refused
    · exact makeCalls_erase _ _ (congrArg Prod.snd entered)
  kept := by
    rw [checks_enterAll]
    rfl
  distinct := nodup_enterAll {} calls List.nodup_nil
  first := by
    intro name
    rw [find?_enterAll]
    rfl

/-! ## The report -/

/-- The line that a check has in a report, whatever becomes of the other checks. -/
inductive IsLineOf : HealthCheck → String → Prop where
  | passed (name : String) : IsLineOf ⟨name, none⟩ ("[+]" ++ name ++ " ok")
  | failed (name reason : String) :
      IsLineOf ⟨name, some reason⟩ ("[-]" ++ name ++ " failed: " ++ reason)

/-- A report about some checks has a line for each of them, in order, and then the verdict. -/
structure IsReportOf (checks : List HealthCheck) (report : HealthReport) : Prop where
  healthy : report.healthy = true ↔ ∀ check ∈ checks, check.failure = none
  body : ∃ lines, List.Forall₂ IsLineOf checks lines ∧
    report.body =
      String.intercalate "\n" (lines ++ [if report.healthy then "ok" else "check failed"])

theorem isLineOf_line (check : HealthCheck) : IsLineOf check check.line := by
  obtain ⟨name, failure⟩ := check
  cases failure with
  | none => exact .passed name
  | some reason => exact .failed name reason

theorem isReportOf_report (list : HealthChecks) : IsReportOf list.checks list.report where
  healthy := by
    change list.checks.all (fun check => check.failure.isNone) = true ↔ _
    simp
  body := by
    refine ⟨list.checks.map HealthCheck.line, ?_, rfl⟩
    rw [List.forall₂_map_right_iff, List.forall₂_same]
    intro check _
    exact isLineOf_line check

end HealthChecks

/-! ## Checks for liveness and readiness -/

/-- The path of the page for a probe. -/
def Probe.path : Probe → String
  | liveness => "/healthz"
  | readiness => "/readyz"

/-- A call that adds a check to those for a probe. -/
structure CheckCall where
  probe : Probe
  check : HealthCheck

namespace CheckCall

/-- The checks that some calls add for a probe. -/
def checksFor (probe : Probe) : List CheckCall → List HealthCheck
  | [] => []
  | call :: rest =>
      if call.probe = probe then call.check :: checksFor probe rest else checksFor probe rest

/-- The outcomes of those calls that are for a probe. -/
def outcomesFor {α : Type} (probe : Probe) : List CheckCall → List α → List α
  | call :: rest, outcome :: outcomes =>
      if call.probe = probe then outcome :: outcomesFor probe rest outcomes
      else outcomesFor probe rest outcomes
  | _, _ => []

end CheckCall

namespace Manager

/-- What comes out of some calls, one after the other, and the manager after them. -/
def enterChecks (manager : Manager) (calls : List CheckCall) :
    List (Except ManagerError Unit) × Manager :=
  makeCalls (fun call manager => (enterCheck call.probe call.check).apply manager) manager calls

theorem enterChecks_cons (manager : Manager) (call : CheckCall) (rest : List CheckCall) :
    manager.enterChecks (call :: rest) =
      (((enterCheck call.probe call.check).apply manager).1 ::
          (((enterCheck call.probe call.check).apply manager).2.enterChecks rest).1,
        (((enterCheck call.probe call.check).apply manager).2.enterChecks rest).2) := rfl

theorem checksFor_withChecks (manager : Manager) (checks : HealthChecks) (probe other : Probe) :
    (manager.withChecks checks probe).checksFor other =
      if probe = other then checks else manager.checksFor other := by
  cases probe with
  | liveness => cases other <;> rfl
  | readiness => cases other <;> rfl

/-- Among calls for both probes, those for one of them have the outcomes and leave the list that
they have and leave alone. -/
theorem enterChecks_for (manager : Manager) (calls : List CheckCall) (probe : Probe) :
    CheckCall.outcomesFor probe calls (manager.enterChecks calls).1 =
        ((manager.checksFor probe).enterAll (CheckCall.checksFor probe calls)).1.map
          (Except.mapError .duplicateCheck) ∧
      (manager.enterChecks calls).2.checksFor probe =
        ((manager.checksFor probe).enterAll (CheckCall.checksFor probe calls)).2 := by
  induction calls generalizing manager with
  | nil => exact ⟨rfl, rfl⟩
  | cons call rest ih =>
      obtain ⟨target, check⟩ := call
      have step := ih (((enterCheck target check).apply manager).2)
      rw [apply_enterCheck, checksFor_withChecks] at step
      by_cases own : target = probe
      · subst own
        rw [if_pos rfl] at step
        simp [enterChecks_cons, apply_enterCheck, CheckCall.outcomesFor, CheckCall.checksFor,
          HealthChecks.enterAll_cons, step]
      · rw [if_neg own] at step
        simp [enterChecks_cons, apply_enterCheck, CheckCall.outcomesFor, CheckCall.checksFor, own,
          step]

theorem page?_path (manager : Manager) (metrics : Metrics) (probe : Probe) :
    (manager.exhibits metrics).page? .probes probe.path =
      some (.ofReport (manager.checksFor probe).report) := by
  cases probe with
  | liveness => rfl
  | readiness => rfl

end Manager

/-- Whether a request is for the page of a probe. -/
structure Request.IsFor (request : Request) (probe : Probe) : Prop where
  server : request.server = .probes
  path : Exhibits.pathOf request.target = probe.path

theorem Manager.respond_probe (manager : Manager) (metrics : Metrics) {request : Request}
    {probe : Probe} (isFor : request.IsFor probe) :
    (manager.exhibits metrics).respond request =
      if request.method = "GET" then .ofReport (manager.checksFor probe).report
      else if request.method = "HEAD" then
        (Response.ofReport (manager.checksFor probe).report).headOnly
      else .notAllowed := by
  rw [Exhibits.respond, isFor.server, isFor.path, page?_path]

/-- Whether a response shows a report to a request that reads it. -/
structure Response.Shows (response : Response) (method : String) (report : HealthReport) :
    Prop where
  status : method = "GET" ∨ method = "HEAD" →
    (response.status = 200 ↔ report.healthy = true) ∧
      (response.status = 500 ↔ report.healthy = false)
  body : method = "GET" → response.body = report.body

theorem Response.status_ofReport (report : HealthReport) :
    ((Response.ofReport report).status = 200 ↔ report.healthy = true) ∧
      ((Response.ofReport report).status = 500 ↔ report.healthy = false) := by
  cases healthy : report.healthy with
  | true => simp [ofReport, healthy]
  | false => simp [ofReport, healthy]

theorem Manager.respond_shows (manager : Manager) (metrics : Metrics) {request : Request}
    {probe : Probe} (isFor : request.IsFor probe) :
    ((manager.exhibits metrics).respond request).Shows request.method
      (manager.checksFor probe).report where
  status := by
    rintro (get | head)
    · rw [respond_probe manager metrics isFor, if_pos get]
      exact Response.status_ofReport _
    · rw [respond_probe manager metrics isFor, head, if_neg (by decide), if_pos rfl]
      exact Response.status_ofReport _
  body := by
    intro get
    rw [respond_probe manager metrics isFor, if_pos get]
    rfl

/-- Of the checks that are added to an empty list, those with new names are kept and the others are
refused without a trace, and the report has a line for each check that is kept.  Of the checks that
are added to a manager, a probe is answered with the report about its own, whatever is added for the
other probe. -/
theorem checks_reported_per_probe :
    (∀ calls, HealthChecks.KeepsFirst calls ∧
      HealthChecks.IsReportOf
        (acceptedCalls calls (HealthChecks.enterAll {} calls).1)
        (HealthChecks.enterAll {} calls).2.report) ∧
    (∀ (manager : Manager) calls metrics probe request, Request.IsFor request probe →
      let entered := (manager.checksFor probe).enterAll (CheckCall.checksFor probe calls)
      CheckCall.outcomesFor probe calls (manager.enterChecks calls).1 =
          entered.1.map (Except.mapError .duplicateCheck) ∧
        (((manager.enterChecks calls).2.exhibits metrics).respond request).Shows request.method
          entered.2.report) ∧
    ∀ (manager other : Manager) calls otherCalls metrics otherMetrics probe request,
      Request.IsFor request probe →
      manager.checksFor probe = other.checksFor probe →
      CheckCall.checksFor probe calls = CheckCall.checksFor probe otherCalls →
      ((manager.enterChecks calls).2.exhibits metrics).respond request =
        ((other.enterChecks otherCalls).2.exhibits otherMetrics).respond request := by
  refine ⟨?_, ?_, ?_⟩
  · intro calls
    refine ⟨HealthChecks.keepsFirst calls, ?_⟩
    rw [← (HealthChecks.keepsFirst calls).kept]
    exact HealthChecks.isReportOf_report _
  · intro manager calls metrics probe request isFor
    obtain ⟨outcomes, list⟩ := manager.enterChecks_for calls probe
    refine ⟨outcomes, ?_⟩
    rw [← list]
    exact Manager.respond_shows _ metrics isFor
  · intro manager other calls otherCalls metrics otherMetrics probe request isFor sameBefore same
    rw [Manager.respond_probe _ metrics isFor, Manager.respond_probe _ otherMetrics isFor,
      (manager.enterChecks_for calls probe).2, (other.enterChecks_for otherCalls probe).2,
      sameBefore, same]

/-- Calls for both probes; the last two repeat a name, each of its own probe. -/
def exampleCheckCalls : List CheckCall :=
  [⟨.readiness, ⟨"cache", some "not synced"⟩⟩, ⟨.liveness, ⟨"ping", none⟩⟩,
    ⟨.readiness, ⟨"ping", none⟩⟩, ⟨.liveness, ⟨"ping", some "late"⟩⟩,
    ⟨.readiness, ⟨"cache", none⟩⟩]

/-- A request for the answer about readiness. -/
def exampleProbeRequest : Request := ⟨.probes, "GET", "/readyz?verbose"⟩

/-- The calls of the example that are for readiness. -/
def exampleReadinessCalls : List CheckCall :=
  exampleCheckCalls.filter fun call => call.probe = .readiness

/-- The check after the one that fails is reported too, the repeated name is refused, and the calls
for the other probe make no difference. -/
theorem checks_reported_per_probe_exampleCheckCalls :
    let manager : Manager := ⟨⟨.scoped none, none, none, {}⟩, {}, {}, []⟩
    let answerAfter := fun calls =>
      ((manager.enterChecks calls).2.exhibits {}).respond exampleProbeRequest
    exampleProbeRequest.IsFor .readiness ∧
      CheckCall.outcomesFor .readiness exampleCheckCalls
        (manager.enterChecks exampleCheckCalls).1 =
        [.ok (), .ok (), .error (.duplicateCheck ⟨"cache"⟩)] ∧
      (answerAfter exampleCheckCalls).status = 500 ∧
      (answerAfter exampleCheckCalls).body =
        "[-]cache failed: not synced\n[+]ping ok\ncheck failed" ∧
      answerAfter exampleCheckCalls = answerAfter exampleReadinessCalls := by
  intro manager answerAfter
  have isFor : exampleProbeRequest.IsFor .readiness := ⟨rfl, by decide +kernel⟩
  have answer := checks_reported_per_probe.2.1 manager exampleCheckCalls {} .readiness _ isFor
  refine ⟨isFor, answer.1, (answer.2.status (Or.inl rfl)).2.mpr (by decide), ?_, ?_⟩
  · rw [answer.2.body rfl]
    decide +kernel
  · exact checks_reported_per_probe.2.2 manager manager exampleCheckCalls exampleReadinessCalls
      {} {} .readiness _ isFor rfl rfl

end ChartOperator
