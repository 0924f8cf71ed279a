import ChartOperator.FileTree.Resolve
import ChartOperator.Watch.Entry
import ChartOperator.Yaml.Decode

/-!
# The watch file

A watch file is a YAML list of watch entries.  A file with nothing but white space is an empty
list.
-/

namespace ChartOperator

open Yaml (Node Decode)

/-- Reads a mapping of texts to texts; of repeated keys the last counts. -/
def decodeStringMap (node : Node Nat) : Decode StringMap := do
  let entries ← Yaml.Decode.entries node
  let texts ← entries.mapM fun (key, value) => do
    pure (key, ← Yaml.Decode.text value)
  pure (StringMap.ofList texts)

/-- Reads a path. -/
def decodePath (node : Node Nat) : Decode Path :=
  Path.ofString <$> Yaml.Decode.text node

/-- Reads a requirement of a label selector. -/
def decodeRequirement (node : Node Nat) : Decode Requirement := do
  let fields ← Yaml.Decode.entries node
  let key ← Yaml.Decode.lastField fields "key" Yaml.Decode.text
  let operator ← Yaml.Decode.lastField fields "operator" Yaml.Decode.text
  let values ← Yaml.Decode.lastField fields "values" (Yaml.Decode.list Yaml.Decode.text)
  pure ⟨key.getD "", operator.getD "", values⟩

/-- Reads a label selector. -/
def decodeSelector (node : Node Nat) : Decode LabelSelector := do
  let fields ← Yaml.Decode.entries node
  let labels ← Yaml.Decode.lastField fields "matchLabels" decodeStringMap
  let expressions ← Yaml.Decode.lastField fields "matchExpressions"
    (Yaml.Decode.list decodeRequirement)
  pure ⟨labels, expressions⟩

/-- The fields of a watch entry. -/
def watchFields : List String :=
  ["group", "version", "kind", "chart", "watchDependentResources", "overrideValues", "selector",
   "reconcilePeriod", "maxConcurrentReconciles"]

/-- Reads a watch entry as it is written. -/
def decodeWatch (node : Node Nat) : Decode WatchDraft := do
  let fields ← Yaml.Decode.record watchFields node
  let group ← Yaml.Decode.field? fields "group" Yaml.Decode.text
  let version ← Yaml.Decode.field? fields "version" Yaml.Decode.text
  let kind ← Yaml.Decode.field? fields "kind" Yaml.Decode.text
  let chart ← Yaml.Decode.optionalField fields "chart" decodePath
  let dependents ← Yaml.Decode.optionalField fields "watchDependentResources" Yaml.Decode.bool
  let overrides ← Yaml.Decode.field? fields "overrideValues" decodeStringMap
  let selector ← Yaml.Decode.optionalField fields "selector" decodeSelector
  let period ← Yaml.Decode.optionalField fields "reconcilePeriod" Yaml.Decode.text
  let concurrency ← Yaml.Decode.optionalField fields "maxConcurrentReconciles"
    (Yaml.Decode.unsigned Text.maxWord64)
  pure {
    group := group.getD ""
    version := version.getD ""
    kind := kind.getD ""
    chart := chart
    watchDependentResources := dependents
    overrideValues := overrides.getD []
    selector := selector
    reconcilePeriod := period
    maxConcurrentReconciles := concurrency }

/-- The entries of a watch list as they are written. -/
def readDrafts (content : String) : Except Yaml.Error (List WatchDraft) :=
  if Text.isBlankText content then .ok []
  else Yaml.decodeText (Yaml.Decode.list decodeWatch) content

/-- Reads a watch list from YAML text and checks it. -/
def parseWatches (env : Environment) (content : String) :
    Except WatchError (List WatchEntry) :=
  match readDrafts content with
  | .error e => .error (.parse e)
  | .ok drafts => checkWatches env drafts

/-- Reads a watch list from a file and checks it. -/
def loadWatches (files : FileTree) (env : Environment) (path : Path) :
    Except WatchError (List WatchEntry) :=
  match files.readText path with
  | .error e => .error (.read path e)
  | .ok content => parseWatches env content

end ChartOperator
