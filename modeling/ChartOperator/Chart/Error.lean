import ChartOperator.Chart.IgnoreRules
import ChartOperator.FileTree.Path
import ChartOperator.Yaml.Error

/-!
# Chart errors

Why a directory holds no chart that can be loaded.
-/

namespace ChartOperator

/-- What is wrong with the metadata of a chart. -/
inductive MetadataFault where
  | apiVersion (text : String)
  | noName
  | noVersion
  | chartType (text : String)
  deriving DecidableEq

/-- The wording of a fault. -/
def MetadataFault.reason : MetadataFault → String
  | .apiVersion text => s!"apiVersion '{text}' is not supported"
  | .noName => "name is required"
  | .noVersion => "version is required"
  | .chartType text => s!"chart type '{text}' is not supported"

/-- The causes for which a chart cannot be loaded. -/
inductive ChartError where
  | notFound (path : Path)
  | notADirectory (path : Path)
  | noMetadata (path : Path)
  | unreadable (path : Path) (cause : FileError)
  /-- The files below a directory cannot all be visited. -/
  | walk (path : Path)
  | yaml (path : Path) (cause : Yaml.Error)
  | invalidMetadata (path : Path) (fault : MetadataFault)
  | invalidIgnore (path : Path) (cause : IgnoreError)
  | invalidValues (path : Path)
  /-- A chart inside another one is not unpacked. -/
  | packagedSubchart (path : Path)
  deriving DecidableEq

/-- The wording of a chart error; the text for a failed walk is a mark that stands for any
explanation. -/
def ChartError.message : ChartError → String
  | .notFound path => s!"chart directory {path.display} does not exist"
  | .notADirectory path => s!"chart source {path.display} is not a directory"
  | .noMetadata path => s!"Chart.yaml file is missing in {path.display}"
  | .unreadable path cause => s!"failed to read {path.display}: {cause.message}"
  | .walk path => s!"failed to walk {path.display}: <walk>"
  | .yaml path cause => s!"failed to parse {path.display}: {cause.message}"
  | .invalidMetadata path fault => s!"invalid chart metadata in {path.display}: {fault.reason}"
  | .invalidIgnore path cause => s!"invalid ignore file {path.display}: {cause.message}"
  | .invalidValues path => s!"values file {path.display} must contain a mapping"
  | .packagedSubchart path =>
      s!"packaged subchart {path.display} is not supported, unpack it into a directory"

end ChartOperator
