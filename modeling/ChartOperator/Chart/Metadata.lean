import ChartOperator.Chart.Basic
import ChartOperator.Chart.Error
import ChartOperator.Text.Blank
import ChartOperator.Yaml.Decode

/-!
# Chart metadata

The file with the description of a chart.  The name and the version have to be there, the API
version is `v1` or `v2`, where a blank one counts as `v1`, and the type is `application`,
`library` or absent.
-/

namespace ChartOperator

open Yaml (Node Decode)

/-- Reads a dependency. -/
def decodeDependency (node : Node Nat) : Decode ChartDependency := do
  let fields ← Yaml.Decode.record ["name", "version", "repository", "condition", "alias"] node
  pure {
    name := ← Yaml.Decode.requiredField fields "name" Yaml.Decode.text
    version := ← Yaml.Decode.optionalText fields "version"
    repository := ← Yaml.Decode.optionalText fields "repository"
    condition := ← Yaml.Decode.optionalText fields "condition"
    alternateName := ← Yaml.Decode.optionalText fields "alias" }

/-- The fields of chart metadata. -/
def metadataFields : List String :=
  ["apiVersion", "name", "version", "appVersion", "description", "type", "dependencies"]

/-- Reads chart metadata as they are written. -/
def decodeMetadata (node : Node Nat) : Decode ChartMetadata := do
  let fields ← Yaml.Decode.record metadataFields node
  let apiVersion ← Yaml.Decode.field? fields "apiVersion" Yaml.Decode.text
  let name ← Yaml.Decode.field? fields "name" Yaml.Decode.text
  let version ← Yaml.Decode.field? fields "version" Yaml.Decode.text
  let appVersion ← Yaml.Decode.optionalText fields "appVersion"
  let description ← Yaml.Decode.optionalText fields "description"
  let chartType ← Yaml.Decode.optionalText fields "type"
  let dependencies ← Yaml.Decode.field? fields "dependencies" (Yaml.Decode.list decodeDependency)
  pure {
    apiVersion := apiVersion.getD ""
    name := name.getD ""
    version := version.getD ""
    appVersion := appVersion
    description := description
    chartType := chartType
    dependencies := dependencies.getD [] }

namespace ChartMetadata

/-- The metadata with `v1` in place of a blank API version. -/
def withApiVersion (metadata : ChartMetadata) : ChartMetadata :=
  if Text.isBlankText metadata.apiVersion then { metadata with apiVersion := "v1" } else metadata

/-- The first fault of metadata. -/
def fault? (metadata : ChartMetadata) : Option MetadataFault :=
  if metadata.apiVersion ≠ "v1" ∧ metadata.apiVersion ≠ "v2" then
    some (.apiVersion metadata.apiVersion)
  else if Text.isBlankText metadata.name then some .noName
  else if Text.isBlankText metadata.version then some .noVersion
  else
    match metadata.chartType with
    | none => none
    | some text =>
        if text = "application" ∨ text = "library" then none else some (.chartType text)

/-- Checks metadata. -/
def check (metadata : ChartMetadata) : Except MetadataFault ChartMetadata :=
  match metadata.withApiVersion.fault? with
  | some fault => .error fault
  | none => .ok metadata.withApiVersion

end ChartMetadata

end ChartOperator
