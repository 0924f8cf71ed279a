/-!
# Health checks

Named checks and the report about all of them.  A report has a line for each check, in the order in
which the checks were added, and a verdict; every check is run, also after one that fails.
-/

namespace ChartOperator

/-- A check: its name and, if it fails, the reason. -/
structure HealthCheck where
  name : String
  failure : Option String := none
  deriving DecidableEq

namespace HealthCheck

/-- Whether a check passes. -/
def passes (check : HealthCheck) : Bool := check.failure.isNone

/-- The line of a check in a report. -/
def line (check : HealthCheck) : String :=
  match check.failure with
  | none => "[+]" ++ check.name ++ " ok"
  | some reason => "[-]" ++ check.name ++ " failed: " ++ reason

end HealthCheck

/-- The checks of one list, in the order in which they were added. -/
structure HealthChecks where
  checks : List HealthCheck := []
  deriving DecidableEq

/-- A check of this name is there already. -/
structure DuplicateCheck where
  name : String
  deriving DecidableEq

/-- What the checks of a list amount to. -/
structure HealthReport where
  healthy : Bool
  body : String
  deriving DecidableEq

namespace HealthChecks

/-- Whether there is a check with a name. -/
def has (list : HealthChecks) (name : String) : Bool :=
  list.checks.any fun check => check.name == name

/-- A change of a list that may be refused.  What has been changed before stays changed. -/
abbrev Update : Type → Type := ExceptT DuplicateCheck (StateM HealthChecks)

/-- What comes out of a change, and the list after it. -/
def Update.apply {α : Type} (update : Update α) (list : HealthChecks) :
    Except DuplicateCheck α × HealthChecks :=
  update.run.run list

/-- Adds a check; of two checks with one name the first is kept and the second refused. -/
def enter (check : HealthCheck) : Update Unit := do
  if (← get).has check.name then throw ⟨check.name⟩
  modify fun list => ⟨list.checks ++ [check]⟩

/-- The list with a further check. -/
def add (list : HealthChecks) (check : HealthCheck) : Except DuplicateCheck HealthChecks :=
  match (enter check).apply list with
  | (.ok (), next) => .ok next
  | (.error e, _) => .error e

theorem apply_enter (check : HealthCheck) (list : HealthChecks) :
    (enter check).apply list =
      if list.has check.name then (.error ⟨check.name⟩, list)
      else (.ok (), ⟨list.checks ++ [check]⟩) := by
  by_cases known : list.has check.name = true
  · rw [if_pos known]
    change (if list.has check.name then _ else _ : Update Unit).apply list = _
    rw [if_pos known]
    rfl
  · rw [if_neg known]
    change (if list.has check.name then _ else _ : Update Unit).apply list = _
    rw [if_neg known]
    rfl

/-- A check with a new name is added at the end. -/
theorem add_of_new {list : HealthChecks} {check : HealthCheck}
    (new : list.has check.name = false) : list.add check = .ok ⟨list.checks ++ [check]⟩ := by
  simp [add, apply_enter, new]

/-- Whether every check passes. -/
def healthy (list : HealthChecks) : Bool :=
  list.checks.all HealthCheck.passes

/-- The last line of a report. -/
def verdict (healthy : Bool) : String :=
  if healthy then "ok" else "check failed"

/-- The lines of the report. -/
def lines (list : HealthChecks) : List String :=
  list.checks.map HealthCheck.line ++ [verdict list.healthy]

/-- The report about all checks. -/
def report (list : HealthChecks) : HealthReport where
  healthy := list.healthy
  body := String.intercalate "\n" list.lines

end HealthChecks

end ChartOperator
