import ChartOperator.Duration.Parser
import ChartOperator.Environment.Expansion
import ChartOperator.FileTree.Path
import ChartOperator.Resource.Gvk
import ChartOperator.Resource.LabelSelector
import ChartOperator.Text.Blank
import ChartOperator.Yaml.Error

/-!
# Watch entries

A watch entry binds one kind of resources to the chart that is installed for each of them.  This
module turns the entries of a watch list, as they are written, into checked ones: an entry needs
a version, a kind and a chart, a concurrency limit of at least one and a readable period, and no
two entries may name the same kind.
-/

namespace ChartOperator

/-- An entry of a watch list as it is written. -/
structure WatchDraft where
  group : String := ""
  version : String := ""
  kind : String := ""
  chart : Option Path := none
  watchDependentResources : Option Bool := none
  overrideValues : StringMap := []
  selector : Option LabelSelector := none
  reconcilePeriod : Option String := none
  maxConcurrentReconciles : Option Nat := none

/-- A checked entry of a watch list. -/
structure WatchEntry where
  gvk : Gvk
  /-- The directory of the chart. -/
  chartDir : Path
  /-- Whether the resources that a release creates are watched too. -/
  watchDependentResources : Bool
  /-- Settings that take precedence over those of the chart, with references expanded. -/
  overrideValues : StringMap
  /-- Restricts the resources for which the chart is installed. -/
  selector : LabelSelector
  reconcilePeriod : Option Duration
  maxConcurrentReconciles : Option Nat
  deriving DecidableEq

/-- What a watch entry lacks. -/
inductive WatchFault where
  | noVersion
  | noKind
  | noChart
  | noConcurrency
  deriving DecidableEq

/-- The wording of a fault. -/
def WatchFault.reason : WatchFault → String
  | .noVersion => "version must not be empty"
  | .noKind => "kind must not be empty"
  | .noChart => "chart must not be empty"
  | .noConcurrency => "maxConcurrentReconciles must be at least 1"

/-- Why a watch list is refused. -/
inductive WatchError where
  /-- The file cannot be read. -/
  | read (path : Path) (cause : FileError)
  /-- The text is not a list of entries. -/
  | parse (cause : Yaml.Error)
  | invalid (index : Nat) (fault : WatchFault)
  | duplicate (gvk : Gvk)
  | reconcilePeriod (index : Nat) (cause : Duration.ParseError)
  deriving DecidableEq

/-- The wording of a watch error. -/
def WatchError.message : WatchError → String
  | .read path cause => s!"failed to read watches file {path.display}: {cause.message}"
  | .parse cause => s!"failed to parse watches file: {cause.message}"
  | .invalid index fault => s!"invalid watch at index {index}: {fault.reason}"
  | .duplicate gvk => s!"duplicate watch for {gvk.label}"
  | .reconcilePeriod index cause =>
      s!"invalid reconcilePeriod in watch at index {index}: {cause.message}"

namespace WatchDraft

/-- The kind that an entry names. -/
def gvk (draft : WatchDraft) : Gvk :=
  ⟨draft.group, draft.version, draft.kind⟩

/-- The chart of an entry, if it is not empty. -/
def chartDir? (draft : WatchDraft) : Option Path :=
  draft.chart.filter fun path => !path.bytes.isEmpty

/-- Reads the period of an entry, if it has one. -/
def readPeriod (draft : WatchDraft) (index : Nat) : Except WatchError (Option Duration) :=
  match draft.reconcilePeriod with
  | none => .ok none
  | some text =>
      match Duration.parse text with
      | .ok period => .ok (some period)
      | .error e => .error (.reconcilePeriod index e)

/-- Checks the entry at an index. -/
def check (env : Environment) (index : Nat) (draft : WatchDraft) :
    Except WatchError WatchEntry :=
  if Text.isBlankText draft.version then .error (.invalid index .noVersion)
  else if Text.isBlankText draft.kind then .error (.invalid index .noKind)
  else
    match draft.chartDir? with
    | none => .error (.invalid index .noChart)
    | some chartDir =>
        if draft.maxConcurrentReconciles = some 0 then .error (.invalid index .noConcurrency)
        else
          match draft.readPeriod index with
          | .error e => .error e
          | .ok period =>
              .ok {
                gvk := draft.gvk
                chartDir := chartDir
                watchDependentResources := draft.watchDependentResources.getD true
                overrideValues := draft.overrideValues.mapValues (Environment.expand env)
                selector := draft.selector.getD {}
                reconcilePeriod := period
                maxConcurrentReconciles := draft.maxConcurrentReconciles }

end WatchDraft

/-- Checks the entries from an index on, in order; `seen` holds the kinds of those before. -/
def checkDrafts (env : Environment) (seen : List Gvk) (index : Nat) :
    List WatchDraft → Except WatchError (List WatchEntry)
  | [] => .ok []
  | draft :: rest =>
      match draft.check env index with
      | .error e => .error e
      | .ok entry =>
          if entry.gvk ∈ seen then .error (.duplicate entry.gvk)
          else
            match checkDrafts env (entry.gvk :: seen) (index + 1) rest with
            | .error e => .error e
            | .ok entries => .ok (entry :: entries)

/-- Checks a whole watch list. -/
def checkWatches (env : Environment) (drafts : List WatchDraft) :
    Except WatchError (List WatchEntry) :=
  checkDrafts env [] 0 drafts

end ChartOperator
