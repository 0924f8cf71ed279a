import ChartOperator.FileTree.Path
import ChartOperator.Yaml.Value

/-!
# Charts

A chart describes what to install for a resource: its metadata, its default settings, its
templates and further files, and the charts inside it.
-/

namespace ChartOperator

/-- A chart that another chart needs. -/
structure ChartDependency where
  name : String
  version : Option String := none
  repository : Option String := none
  condition : Option String := none
  alternateName : Option String := none
  deriving DecidableEq

/-- The description of a chart. -/
structure ChartMetadata where
  apiVersion : String := ""
  name : String := ""
  version : String := ""
  appVersion : Option String := none
  description : Option String := none
  chartType : Option String := none
  dependencies : List ChartDependency := []
  deriving DecidableEq

/-- A file of a chart, named by the path below the directory of the chart. -/
structure ChartFile where
  name : String
  data : Bytes
  deriving DecidableEq

/-- A chart. -/
structure Chart where
  metadata : ChartMetadata
  /-- The default settings. -/
  values : Yaml.Mapping := []
  templates : List ChartFile := []
  /-- All other files. -/
  files : List ChartFile := []
  /-- The charts inside this one. -/
  subcharts : List Chart := []
  /-- The directory of the chart. -/
  source : Path := ⟨[]⟩

namespace Chart

/-- The name of a chart. -/
def name (chart : Chart) : String := chart.metadata.name

/-- The version of a chart. -/
def version (chart : Chart) : String := chart.metadata.version

/-- Library charts only support others and cannot be installed. -/
def isLibrary (chart : Chart) : Bool := chart.metadata.chartType == some "library"

end Chart

end ChartOperator
